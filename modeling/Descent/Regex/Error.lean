/-!
# Faulty regular expressions

The ways in which a text can fail to be a regular expression that can be compiled.
-/

namespace Descent.Regex

inductive Error where
  | nothingToRepeat
  | unclosedRepetition
  | badCount
  | invertedCount
  | unopenedGroup
  | unclosedGroup
  | lookAround
  | badGroupName
  | duplicateGroupName (name : String)
  | badFlags
  | unclosedClass
  | badClassItem
  | invertedRange
  | badEscape
  | badCodePoint
  | backreference
  | unknownProperty
  | badBoundary
  | outsideAscii
  | tooDeep
  | tooLarge
deriving DecidableEq, Repr

/-- What is read along with a value does not depend on the value. -/
theorem rest_eq_of_map {α β : Type} (make : α → β) {found : Except Error α} {given rest : List Char}
    {b : β} (h : (found.map fun a => (make a, given)) = .ok (b, rest)) : rest = given := by
  cases found with
  | error e => cases h
  | ok a =>
    cases h
    rfl

end Descent.Regex
