import Descent.Regex.CharClass
import Descent.Regex.Error

/-!
# Flags

Switches that decide how the text of a regular expression is read. Each has a letter by which a
group can set or clear it.
-/

namespace Descent.Regex

inductive Flag where
  | caseless
  | multiline
  | dotAll
  | lazyFirst
  | verbose
  | unicode
  | carriageReturn
deriving DecidableEq, Repr

namespace Flag

def ofChar? : Char → Option Flag
  | 'i' => some caseless
  | 'm' => some multiline
  | 's' => some dotAll
  | 'U' => some lazyFirst
  | 'x' => some verbose
  | 'u' => some unicode
  | 'R' => some carriageReturn
  | _ => none

end Flag

/-- What ends a line: a line feed, or else a line feed, a carriage return, or a carriage return with
a line feed after it. -/
inductive LineEnd where
  | lineFeed
  | carriageReturn
deriving DecidableEq, Repr

/-- The flags in force. `lazyFirst` swaps greedy and lazy; `verbose` skips blanks and comments. -/
structure Flags where
  caseless : Bool
  multiline : Bool
  dotAll : Bool
  lazyFirst : Bool
  verbose : Bool
  repertoire : Repertoire
  lineEnd : LineEnd
deriving DecidableEq, Repr

namespace Flags

def initial : Flags where
  caseless := false
  multiline := false
  dotAll := false
  lazyFirst := false
  verbose := false
  repertoire := .unicode
  lineEnd := .lineFeed

def set (flags : Flags) (value : Bool) : Flag → Flags
  | .caseless => { flags with caseless := value }
  | .multiline => { flags with multiline := value }
  | .dotAll => { flags with dotAll := value }
  | .lazyFirst => { flags with lazyFirst := value }
  | .verbose => { flags with verbose := value }
  | .unicode => { flags with repertoire := if value then .unicode else .ascii }
  | .carriageReturn => { flags with lineEnd := if value then .carriageReturn else .lineFeed }

def change (flags : Flags) (changes : List (Flag × Bool)) : Flags :=
  changes.foldl (fun flags (flag, value) => flags.set value flag) flags

/-- A class under the flags: in either letter case if case does not count. -/
def fold (flags : Flags) (c : CharClass) : CharClass :=
  if flags.caseless then c.caseless flags.repertoire else c

/-- A class that the flags allow: under ASCII it must have no members beyond. -/
def checked (flags : Flags) (c : CharClass) : Except Error CharClass :=
  if flags.repertoire = .ascii && !c.isAscii then .error .outsideAscii else .ok c

/-- What a dot stands for: everything, or else all that cannot end a line. -/
def dot (flags : Flags) : Except Error CharClass :=
  if flags.dotAll then flags.checked .all
  else
    match flags.lineEnd with
    | .lineFeed => flags.checked (CharClass.single '\n').compl
    | .carriageReturn => flags.checked (CharClass.ofRanges [('\n', '\n'), ('\r', '\r')]).compl

end Flags

end Descent.Regex
