import Descent.Regex.Token
import Descent.Text

/-!
# Places in a text

A match begins, goes on and ends between two characters of a text. What an assertion asks for shows
on both sides of such a place; what a match covers is a span between two of them.
-/

namespace Descent.Regex

/-- A place between two characters of a text. -/
structure Place where
  index : Nat
  before : Option Char
  rest : Text
deriving DecidableEq, Repr

namespace Place

/-- Whether a character is there and belongs to a word. -/
def isWord (repertoire : Repertoire) (c : Option Char) : Bool :=
  c.any (CharClass.word repertoire).contains

/-- Whether the word characters before and after a place make it an edge. -/
def isEdge (edge : WordEdge) (before after : Bool) : Bool :=
  match edge with
  | .boundary => before != after
  | .notBoundary => before == after
  | .start => !before && after
  | .finish => before && !after
  | .startHalf => !before
  | .finishHalf => !after

/-- Whether a line starts after `before`; a line feed after a carriage return belongs to it. -/
def isLineStart (lineEnd : LineEnd) (before after : Option Char) : Bool :=
  match lineEnd, before with
  | _, none | _, some '\n' => true
  | .carriageReturn, some '\r' => after != some '\n'
  | _, _ => false

def isLineEnd (lineEnd : LineEnd) (before after : Option Char) : Bool :=
  match lineEnd, after with
  | _, none | .lineFeed, some '\n' | .carriageReturn, some '\r' => true
  | .carriageReturn, some '\n' => before != some '\r'
  | _, _ => false

def satisfies (place : Place) : Assertion → Bool
  | .textStart => place.before.isNone
  | .textEnd => place.rest.isEmpty
  | .lineStart lineEnd => isLineStart lineEnd place.before place.rest.head?
  | .lineEnd lineEnd => isLineEnd lineEnd place.before place.rest.head?
  | .word edge repertoire =>
    isEdge edge (isWord repertoire place.before) (isWord repertoire place.rest.head?)

/-- The place at which a text begins. -/
def beginning (text : Text) : Place where
  index := 0
  before := none
  rest := text

/-- The place behind a character and before the rest of the text. -/
def advance (place : Place) (c : Char) (rest : Text) : Place where
  index := place.index + 1
  before := some c
  rest := rest

theorem length_advance_lt {place : Place} {c : Char} {rest : Text}
    (hrest : place.rest = c :: rest) :
    (place.advance c rest).rest.length < place.rest.length := by
  rw [hrest]
  exact Nat.lt_succ_self rest.length

end Place

/-- The text a match or group covers, in characters from the start of the text. -/
structure Span where
  start : Nat
  stop : Nat
deriving DecidableEq, Repr

def Span.text (span : Span) (text : Text) : Text :=
  (text.drop span.start).take (span.stop - span.start)

end Descent.Regex
