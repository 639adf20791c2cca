import Descent.Failure
import Descent.Position

/-!
# Parse errors

What a reader is told about a failed parse: the place in bytes, characters, rows and columns, the
expectation, and a message that quotes the input around the place.
-/

namespace Descent

structure ParseError where
  offset : Nat
  character : Nat
  expected : String
  position : Position
  message : String
deriving DecidableEq, Repr

namespace ParseError

/-- At most this many characters after the place of the failure are quoted. -/
def previewLength : Nat := 12

/-- The characters before a byte offset, or all of them where the text cannot be cut. -/
def characterOf (input : Text) (offset : Nat) : Nat :=
  ((Text.before? input offset).getD input).length

/-- Where the quotation ends in the remaining text: before the first character too many, if there is
one. -/
def previewEnd (rest : Text) : Nat :=
  (rest.charStarts 0)[previewLength]?.getD (Text.size rest)

/-- The beginning of the remaining text, with dots for what is left out on either side. There is
none if the text cannot be cut where the quotation ends. -/
def preview? (offset : Nat) (rest : Text) : Option String := do
  let stop := previewEnd rest
  let quoted ← Text.before? rest stop
  return (if 0 < offset then "..." else "")
    ++ String.ofList quoted
    ++ (if stop < Text.size rest then "..." else "")

def messageAt? (input : Text) (offset character : Nat) (expected : String) : Option String :=
  let parsing := "\n    parsing: '" ++ String.ofList input ++ "'"
  match Text.after? input offset with
  | none | some [] => some (s!"expected {expected}, got the end of the string" ++ parsing)
  | some rest => do
    let quoted ← preview? offset rest
    return s!"expected {expected} at character {character}, got '" ++ quoted ++ "'" ++ parsing

/-- The error for a failure; there is none for an offset inside a character. -/
def at? (input : Text) (failure : Failure) : Option ParseError := do
  let character := characterOf input failure.offset
  let position ← Position.resolve? input failure.offset
  let message ← messageAt? input failure.offset character failure.expected
  return {
    offset := failure.offset
    character
    expected := failure.expected
    position
    message }

/-- The quotation ends where a text of so many characters does. -/
theorem previewEnd_eq (rest : Text) : previewEnd rest = Text.size (rest.take previewLength) := by
  unfold previewEnd
  rw [Text.getElem?_charStarts]
  split
  · simp
  · next h => rw [List.take_of_length_le (Nat.le_of_not_lt h), Option.getD_none]

theorem previewEnd_lt_size_iff {rest : Text} :
    previewEnd rest < Text.size rest ↔ previewLength < rest.length := by
  have hsplit : Text.size rest =
      Text.size (rest.take previewLength) + Text.size (rest.drop previewLength) := by
    rw [← Text.size_append, List.take_append_drop]
  have hnil : Text.size (rest.drop previewLength) = 0 ↔ rest.length ≤ previewLength := by
    rw [Text.size_eq_zero_iff, List.drop_eq_nil_iff]
  rw [previewEnd_eq]
  omega

theorem before?_previewEnd (rest : Text) :
    Text.before? rest (previewEnd rest) = some (rest.take previewLength) := by
  rw [previewEnd_eq]
  exact Text.before?_eq_some_iff.mpr ⟨List.take_prefix previewLength rest, rfl⟩

/-- What is quoted, found by counting characters. -/
def window (offset : Nat) (rest : Text) : String :=
  (if 0 < offset then "..." else "")
    ++ String.ofList (rest.take previewLength)
    ++ (if previewLength < rest.length then "..." else "")

/-- The quotation never ends inside a character. -/
theorem preview?_eq_window (offset : Nat) (rest : Text) :
    preview? offset rest = some (window offset rest) := by
  simp [preview?, window, before?_previewEnd, previewEnd_lt_size_iff]

theorem exists_messageAt? (input : Text) (offset character : Nat) (expected : String) :
    ∃ message, messageAt? input offset character expected = some message := by
  unfold messageAt?
  split
  · exact ⟨_, rfl⟩
  · exact ⟨_, rfl⟩
  · rw [preview?_eq_window]
    exact ⟨_, rfl⟩

/-- There is always a message, so there is an error wherever there is a position. -/
theorem exists_at?_eq_map (input : Text) (failure : Failure) :
    ∃ message,
      messageAt? input failure.offset (characterOf input failure.offset) failure.expected =
        some message ∧
      at? input failure = (Position.resolve? input failure.offset).map fun position =>
        { offset := failure.offset
          character := characterOf input failure.offset
          expected := failure.expected
          position
          message } := by
  obtain ⟨message, hmessage⟩ := exists_messageAt? input failure.offset
    (characterOf input failure.offset) failure.expected
  refine ⟨message, hmessage, ?_⟩
  unfold at?
  simp only [hmessage]
  cases Position.resolve? input failure.offset <;> rfl

end ParseError

end Descent
