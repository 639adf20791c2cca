import Descent.Mark

/-!
# Values of blueprints

The values that parsers built from blueprints produce, and the ways in which a blueprint can change
a value.
-/

namespace Descent

inductive Value where
  | null
  | bool (b : Bool)
  | int (n : Int)
  | text (s : String)
  | char (c : Char)
  | list (items : List Value)
  | pair (first second : Value)
  | mark (start : Nat) (value : Value) (stop : Nat)
  | tagged (tag : String) (value : Value)
deriving Repr

namespace Value

mutual

def beq : Value → Value → Bool
  | null, null => true
  | bool a, bool b => a == b
  | int a, int b => a == b
  | text a, text b => a == b
  | char a, char b => a == b
  | list as, list bs => beqList as bs
  | pair a a', pair b b' => beq a b && beq a' b'
  | mark m a n, mark m' b n' => m == m' && beq a b && n == n'
  | tagged s a, tagged t b => s == t && beq a b
  | _, _ => false

def beqList : List Value → List Value → Bool
  | [], [] => true
  | a :: as, b :: bs => beq a b && beqList as bs
  | _, _ => false

end

instance : BEq Value :=
  ⟨beq⟩

mutual

/-- All text in a value, from left to right; numbers count with their digits. -/
def allText : Value → String
  | null | bool _ => ""
  | int n => toString n
  | text s => s
  | char c => String.singleton c
  | list items => listText items
  | pair a b => a.allText ++ b.allText
  | mark _ a _ => a.allText
  | tagged _ a => a.allText

def listText : List Value → String
  | [] => ""
  | a :: as => a.allText ++ listText as

end

mutual

/-- The marks in a value, each before those inside it, from left to right. -/
def marks : Value → List (Mark Value)
  | null | bool _ | int _ | text _ | char _ => []
  | list items => listMarks items
  | pair a b => a.marks ++ b.marks
  | mark start a stop => { start, value := a, stop } :: a.marks
  | tagged _ a => a.marks

def listMarks : List Value → List (Mark Value)
  | [] => []
  | a :: as => a.marks ++ listMarks as

end

/-- The number that the text of a value spells in decimal digits, if it fits in 64 bits. -/
def number? (value : Value) : Option Nat :=
  let digits := value.allText.toList
  let n := digits.foldl (fun n c => 10 * n + (c.toNat - '0'.toNat)) 0
  if !digits.isEmpty && digits.all Char.isDigit && n < UInt64.size then some n else none

/-- The value as a count: a non-negative integer, or else zero. -/
def natural : Value → Nat
  | int n => n.toNat
  | _ => 0

/-- The items of a list, the characters of a text, and one for everything else. -/
def count : Value → Nat
  | list items => items.length
  | text s => s.length
  | _ => 1

end Value

inductive Conversion where
  | text
  | number
  | count
  | sum
  | reverse
  | add (n : Nat)
  | tag (name : String)
deriving DecidableEq, Repr

namespace Conversion

/-- Sums and reversals leave everything but lists alone. -/
def apply : Conversion → Value → Value
  | text, v => .text v.allText
  | number, v => (v.number?.map fun n => Value.int n).getD .null
  | count, v => .int v.count
  | sum, .list items => .int (items.foldl (fun n v => n + v.natural) 0)
  | reverse, .list items => .list items.reverse
  | add n, v => .int (v.natural + n)
  | tag name, v => .tagged name v
  | sum, v | reverse, v => v

end Conversion

end Descent
