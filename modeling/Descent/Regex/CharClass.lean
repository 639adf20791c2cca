import Descent.Text.Alphabetic
import Descent.Text.Joining
import Descent.Text.LetterCase
import Descent.Text.Newcomer
import Descent.Text.Numeric
import Descent.Text.WhiteSpace

/-!
# Character classes

Classes of characters as ranges of code points, so that two classes with the same members are the
same class. Digits, word characters, white space and letter case are those of a repertoire, which
is Unicode unless an expression asks for ASCII.
-/

namespace Descent.Regex

inductive Repertoire where
  | ascii
  | unicode
deriving DecidableEq, Repr

structure CharClass where
  ranges : Text.Ranges
deriving DecidableEq, Repr

namespace CharClass

def contains (a : CharClass) (c : Char) : Bool :=
  Text.Ranges.contains a.ranges c.toNat

def empty : CharClass where
  ranges := []

/-- The characters from `low` to `high`, which are in this order. -/
def range (low high : Char) : CharClass where
  ranges := [(low.toNat, high.toNat)]

def single (c : Char) : CharClass :=
  range c c

def ofRanges (ranges : List (Char × Char)) : CharClass where
  ranges := .ofList (ranges.map fun (low, high) => (low.toNat, high.toNat))

def union (a b : CharClass) : CharClass where
  ranges := a.ranges.union b.ranges

def compl (a : CharClass) : CharClass where
  ranges := a.ranges.complement

def inter (a b : CharClass) : CharClass where
  ranges := a.ranges.inter b.ranges

def diff (a b : CharClass) : CharClass where
  ranges := a.ranges.diff b.ranges

def symmDiff (a b : CharClass) : CharClass :=
  (a.diff b).union (b.diff a)

def ascii : CharClass :=
  range '\x00' '\x7f'

def isAscii (a : CharClass) : Bool :=
  a.ranges.all (·.2 ≤ 0x7F)

/-- The members of a class with those that differ from one of them in letter case alone. -/
def withCases (a : CharClass) : CharClass where
  ranges :=
    Text.casePairs.foldl
      (fun ranges (small, large) =>
        let ranges := if a.ranges.contains small then ranges.insert large large else ranges
        if a.ranges.contains large then ranges.insert small small else ranges)
      a.ranges

/-- The members of a class in all letter cases that they have within the repertoire. -/
def caseless (repertoire : Repertoire) (a : CharClass) : CharClass :=
  match repertoire with
  | .unicode => a.withCases
  | .ascii => a.union ((a.inter ascii).withCases.inter ascii)

/-- The only member of a class, if there is just one. -/
def only? (a : CharClass) : Option Char :=
  match a.ranges with
  | [(low, high)] => if low = high ∧ low.isValidChar then some (Char.ofNat low) else none
  | _ => none

def all : CharClass :=
  empty.compl

def digit : Repertoire → CharClass
  | .ascii => range '0' '9'
  | .unicode => { ranges := Text.decimalDigitRanges }

def whiteSpace : Repertoire → CharClass
  | .ascii => ofRanges [('\t', '\r'), (' ', ' ')]
  | .unicode => { ranges := Text.whiteSpaceRanges }

def alphabetic : CharClass where
  ranges := Text.alphabeticRanges

def word : Repertoire → CharClass
  | .ascii => ofRanges [('0', '9'), ('A', 'Z'), ('_', '_'), ('a', 'z')]
  | .unicode => (alphabetic.union (digit .unicode)).union { ranges := Text.joiningRanges }

/-- Letters that the name of a group can start with, an underscore apart. -/
def nameStart : CharClass :=
  alphabetic.union { ranges := Text.Newcomer.alphabetic }

/-- Letters and numbers that can follow in the name of a group. -/
def nameRest : CharClass where
  ranges :=
    nameStart.ranges.union
      (.unions [Text.decimalDigitRanges, Text.otherNumberRanges, Text.Newcomer.numeric])

/-- The classes that have a name between `[:` and `:]`, all within ASCII. -/
def named : List (String × CharClass) :=
  [("alnum", ofRanges [('0', '9'), ('A', 'Z'), ('a', 'z')]),
    ("alpha", ofRanges [('A', 'Z'), ('a', 'z')]),
    ("ascii", ascii),
    ("blank", ofRanges [('\t', '\t'), (' ', ' ')]),
    ("cntrl", ofRanges [('\x00', '\x1f'), ('\x7f', '\x7f')]),
    ("digit", range '0' '9'),
    ("graph", range '!' '~'),
    ("lower", range 'a' 'z'),
    ("print", range ' ' '~'),
    ("punct", ofRanges [('!', '/'), (':', '@'), ('[', '\x60'), ('\x7b', '~')]),
    ("space", ofRanges [('\t', '\r'), (' ', ' ')]),
    ("upper", range 'A' 'Z'),
    ("word", ofRanges [('0', '9'), ('A', 'Z'), ('_', '_'), ('a', 'z')]),
    ("xdigit", ofRanges [('0', '9'), ('A', 'F'), ('a', 'f')])]

theorem contains_range {low high c : Char} :
    (range low high).contains c = decide (low ≤ c ∧ c ≤ high) := by
  simp [contains, range, Text.Ranges.contains, Char.le_def, UInt32.le_iff_toNat_le]

theorem contains_single {c d : Char} : (single c).contains d = decide (d = c) := by
  rw [single, contains_range, Bool.eq_iff_iff]
  simp only [decide_eq_true_eq]
  exact ⟨fun h => (Char.le_antisymm h.1 h.2).symm, fun h => h ▸ ⟨Char.le_refl _, Char.le_refl _⟩⟩

end CharClass

end Descent.Regex
