import Descent.Regex.Flags

/-!
# Tokens of regular expressions

The pieces that the text of a regular expression is made of.
-/

namespace Descent.Regex

/-- What a place has to do with words, by the word characters on its two sides. -/
inductive WordEdge where
  | boundary
  | notBoundary
  | start
  | finish
  /-- There is no word before the place. -/
  | startHalf
  /-- There is no word after the place. -/
  | finishHalf
deriving DecidableEq, Repr

inductive Assertion where
  | textStart
  | textEnd
  | lineStart (lineEnd : LineEnd)
  | lineEnd (lineEnd : LineEnd)
  | word (edge : WordEdge) (repertoire : Repertoire)
deriving DecidableEq, Repr

/-- How often something is to be repeated; `many` is the preference for more over fewer. -/
structure Repetition where
  least : Nat
  most : Option Nat
  many : Bool
deriving DecidableEq, Repr

inductive Token where
  | one (c : CharClass)
  /-- A class in brackets, with the depth to which brackets and operations nest in it. -/
  | bracket (c : CharClass) (depth : Nat)
  | assertion (a : Assertion)
  | openCapture (name : Option String)
  | openPlain (changes : List (Flag × Bool))
  | closeGroup
  | bar
  | repetition (r : Repetition)
  | directive (changes : List (Flag × Bool))
  | blank
deriving DecidableEq, Repr

end Descent.Regex
