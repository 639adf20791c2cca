import Descent.ParseError
import Descent.Proofs.OnePass
import Mathlib.Algebra.Ring.Nat

/-!
# What an error says

The fields of an error are found separately: the offset is given, the characters before it are
counted, the row and the column come from the scan, and the message quotes what is left of the
input. They all denote one place, and the quotation is a window of whole characters.
-/

namespace Descent

namespace Position

/-- The characters before a position in a text of these lines: all those of the rows before it, each
with its line break, and those of its own row. -/
def charactersBefore (lines : List Text) (p : Position) : Nat :=
  p.col + ((lines.take p.row).map fun line => line.length + 1).sum

theorem charactersBefore_newline (lines : List Text) (p : Position) :
    charactersBefore ([] :: lines) ((ending ['\n']).followedBy p) =
      charactersBefore lines p + 1 := by
  rw [ending_newline_followedBy]
  simp [charactersBefore, Nat.add_comm, Nat.add_left_comm]

theorem charactersBefore_other {c : Char} (hc : c ≠ '\n') (line : Text) (lines : List Text)
    (p : Position) :
    charactersBefore ((c :: line) :: lines) ((ending [c]).followedBy p) =
      charactersBefore (line :: lines) p + 1 := by
  rw [ending_other_followedBy hc]
  cases hrow : p.row with
  | zero => simp [charactersBefore, hrow]
  | succ row =>
    simp only [charactersBefore, hrow, Nat.add_one_ne_zero, if_false, List.take_succ_cons,
      List.map_cons, List.sum_cons, List.length_cons]
    omega

theorem charactersBefore_ending (a b : Text) :
    charactersBefore ((a ++ b).splitOn '\n') (ending a) = a.length := by
  induction a with
  | nil => rfl
  | cons c a ih =>
    have hending : ending (c :: a) = (ending [c]).followedBy (ending a) := ending_append [c] a
    rw [List.cons_append, splitOn_cons, hending, List.length_cons, ← ih]
    by_cases hc : c = '\n'
    · rw [if_pos hc, hc, charactersBefore_newline]
    · obtain ⟨first, others, hlines⟩ :=
        List.exists_cons_of_ne_nil (List.splitOn_ne_nil '\n' (a ++ b))
      rw [if_neg hc, hlines, List.modifyHead_cons, charactersBefore_other hc]

end Position

namespace ParseError

section Messages

variable {input consumed rest : Text} {offset : Nat}

theorem characterOf_consumed (hsplit : input = consumed ++ rest)
    (hsize : consumed.size = min offset input.size) :
    characterOf input offset = consumed.length := by
  subst hsplit
  unfold characterOf
  rcases Nat.lt_or_ge (Text.size (consumed ++ rest)) offset with hlt | hle
  · -- The text cannot be cut there, so all of it is counted, and nothing remains.
    have hnone : Text.before? (consumed ++ rest) offset = none := by
      apply Option.eq_none_iff_forall_ne_some.mpr
      intro x hx
      obtain ⟨⟨y, hxy⟩, hx⟩ := Text.before?_eq_some_iff.mp hx
      rw [← hxy, Text.size_append] at hlt
      omega
    have hrest : rest = [] := by
      rw [Nat.min_eq_right (Nat.le_of_lt hlt), Text.size_append] at hsize
      exact Text.size_eq_zero_iff.mp (by omega)
    rw [hnone, Option.getD_none, hrest, List.append_nil]
  · rw [Nat.min_eq_left hle] at hsize
    rw [Text.before?_eq_some_iff.mpr ⟨List.prefix_append consumed rest, hsize⟩, Option.getD_some]

theorem messageAt?_of_end (character : Nat) (expected : String)
    (h : input.size ≤ offset) :
    messageAt? input offset character expected =
      some (s!"expected {expected}, got the end of the string" ++
        "\n    parsing: '" ++ String.ofList input ++ "'") := by
  have hafter : input.after? offset = none ∨ input.after? offset = some [] := by
    cases hrest : input.after? offset with
    | none => exact .inl rfl
    | some rest =>
      obtain ⟨before, rfl, rfl⟩ := Text.after?_eq_some_iff.mp hrest
      rw [Text.size_append] at h
      rw [Text.size_eq_zero_iff.mp (show rest.size = 0 by omega)]
      exact .inr rfl
  unfold messageAt?
  rcases hafter with hafter | hafter <;> simp only [hafter, String.append_assoc]

theorem messageAt?_of_rest (character : Nat) (expected : String) (hrest : rest ≠ []) :
    messageAt? (consumed ++ rest) consumed.size character expected =
      some (s!"expected {expected} at character {character}, got '" ++ window consumed.size rest ++
        "'" ++ "\n    parsing: '" ++ String.ofList (consumed ++ rest) ++ "'") := by
  have hafter : Text.after? (consumed ++ rest) consumed.size = some rest :=
    Text.after?_eq_some_iff.mpr ⟨consumed, rfl, rfl⟩
  obtain ⟨c, rest, rfl⟩ := List.exists_cons_of_ne_nil hrest
  unfold messageAt?
  simp only [hafter, preview?_eq_window, Option.bind_eq_bind, Option.bind_some, Option.pure_def,
    String.append_assoc]

/-- The error for a failure with something behind it. -/
theorem at?_of_rest (expected : String) (hrest : rest ≠ []) :
    at? (consumed ++ rest) ⟨consumed.size, expected⟩ = some
      { offset := consumed.size
        character := consumed.length
        expected
        position := .ending consumed
        message := s!"expected {expected} at character {consumed.length}, got '" ++
          window consumed.size rest ++
          "'" ++ "\n    parsing: '" ++ String.ofList (consumed ++ rest) ++ "'" } := by
  have hsize := Text.size_eq_min_size_append consumed rest
  obtain ⟨message, hmessage, hat⟩ := exists_at?_eq_map (consumed ++ rest) ⟨consumed.size, expected⟩
  dsimp only at hmessage hat
  rw [characterOf_consumed rfl hsize] at hmessage hat
  rw [messageAt?_of_rest _ _ hrest] at hmessage
  rw [hat, Position.resolve?_of_consumed rfl hsize, Option.map_some, Option.some.inj hmessage]

/-- The error for a failure at the end, or past it. -/
theorem at?_of_end (expected : String) (h : input.size ≤ offset) :
    at? input ⟨offset, expected⟩ = some
      { offset
        character := input.length
        expected
        position := .ending input
        message := s!"expected {expected}, got the end of the string" ++
          "\n    parsing: '" ++ String.ofList input ++ "'" } := by
  have hsplit : input = input ++ [] := (List.append_nil input).symm
  have hsize : input.size = min offset input.size := (Nat.min_eq_right h).symm
  obtain ⟨message, hmessage, hat⟩ := exists_at?_eq_map input ⟨offset, expected⟩
  dsimp only at hmessage hat
  rw [messageAt?_of_end _ _ h] at hmessage
  rw [hat, characterOf_consumed hsplit hsize, Position.resolve?_of_consumed hsplit hsize,
    Option.map_some, Option.some.inj hmessage]

/-- The two forms of a message part right behind the expectation. -/
theorem messages_ne (expected quoted parsing : String) (character : Nat) :
    s!"expected {expected} at character {character}, got '" ++ quoted ++ "'" ++
        "\n    parsing: '" ++ parsing ++ "'" ≠
      s!"expected {expected}, got the end of the string" ++
        "\n    parsing: '" ++ parsing ++ "'" := by
  intro h
  have hlists := congrArg String.toList h
  simp [toString] at hlists

end Messages

/-- The character number, the row and the column of an error all count what is consumed of an input
before an offset. -/
structure CountsTo (input : Text) (offset : Nat) (error : ParseError) : Prop where
  character : ∃ consumed rest, input = consumed ++ rest ∧ consumed.size = min offset input.size ∧
    error.character = consumed.length
  span : Text.size (input.take error.character) = min offset input.size
  position : (LineIndex.ofText input).resolve? offset = some error.position
  lines : error.character = error.position.charactersBefore (input.splitOn '\n')

theorem countsTo_of_consumed {input consumed rest : Text} {offset : Nat} {error : ParseError}
    (hsplit : input = consumed ++ rest) (hsize : consumed.size = min offset input.size)
    (hcharacter : error.character = consumed.length)
    (hposition : error.position = .ending consumed) : error.CountsTo input offset where
  character := ⟨consumed, rest, hsplit, hsize, hcharacter⟩
  span := by rw [← hsize, hcharacter, hsplit, List.take_left]
  position := by rw [hposition, LineIndex.resolve?_of_consumed hsplit hsize]
  lines := by rw [hcharacter, hposition, hsplit, Position.charactersBefore_ending]

/-- An error says where and why a failure is, in several ways that agree. -/
structure Denotes (input : Text) (failure : Failure) (error : ParseError) : Prop
    extends error.CountsTo input failure.offset where
  offset : error.offset = failure.offset
  expected : error.expected = failure.expected
  atEnd : error.message = s!"expected {failure.expected}, got the end of the string" ++
    "\n    parsing: '" ++ String.ofList input ++ "'" ↔ input.size ≤ failure.offset
  beforeEnd : failure.offset < input.size → ∃ quoted,
    error.message = s!"expected {failure.expected} at character {error.character}, got '" ++
      quoted ++ "'" ++ "\n    parsing: '" ++ String.ofList input ++ "'"

theorem at?_eq_none_iff {input : Text} {failure : Failure} :
    at? input failure = none ↔ failure.offset < input.size ∧ ¬ input.IsBoundary failure.offset := by
  obtain ⟨message, -, hat⟩ := exists_at?_eq_map input failure
  rw [hat, Option.map_eq_none_iff, Position.resolve?_eq_none_iff]

/-- There is no error exactly for an offset inside a character, and otherwise all fields of the
error denote one place. -/
theorem at?_denotes (input : Text) (failure : Failure) :
    (at? input failure = none ↔
      failure.offset < input.size ∧ ¬ input.IsBoundary failure.offset) ∧
    ∀ error, at? input failure = some error → error.Denotes input failure := by
  refine ⟨at?_eq_none_iff, ?_⟩
  intro error herror
  obtain ⟨offset, expected⟩ := failure
  rcases Nat.lt_or_ge offset input.size with hlt | hge
  · have hboundary : input.IsBoundary offset := by
      by_contra hinside
      rw [at?_eq_none_iff.mpr ⟨hlt, hinside⟩] at herror
      cases herror
    obtain ⟨consumed, rest, rfl, rfl⟩ := hboundary
    have hrest : rest ≠ [] := by
      rintro rfl
      simp at hlt
    have hsize := Text.size_eq_min_size_append consumed rest
    rw [at?_of_rest expected hrest] at herror
    cases herror
    exact {
      countsTo_of_consumed rfl hsize rfl rfl with
      offset := rfl
      expected := rfl
      atEnd := iff_of_false (messages_ne expected _ _ _) (Nat.not_le.mpr hlt)
      beforeEnd := fun _ => ⟨_, rfl⟩ }
  · rw [at?_of_end expected hge] at herror
    cases herror
    exact {
      countsTo_of_consumed (List.append_nil input).symm (Nat.min_eq_right hge).symm rfl rfl with
      offset := rfl
      expected := rfl
      atEnd := iff_of_true rfl hge
      beforeEnd := fun hlt => absurd hge (Nat.not_le.mpr hlt) }

theorem at?_denotes_feed :
    ∃ error, at? "é\nb".toList ⟨3, "'x'"⟩ = some error ∧
      error.Denotes "é\nb".toList ⟨3, "'x'"⟩ := by
  have hat : at? "é\nb".toList ⟨3, "'x'"⟩ = some ⟨3, 2, "'x'", ⟨1, 0⟩,
      "expected 'x' at character 2, got '...b'\n    parsing: 'é\nb'"⟩ := by
    decide +kernel
  exact ⟨_, hat, (at?_denotes "é\nb".toList ⟨3, "'x'"⟩).2 _ hat⟩

/-- The quotation of a message is a window of whole characters behind the failure, twelve or all
that there are, with dots for what is left out before it and behind it. The input follows in
full. -/
theorem message_quotes_window {input : Text} {offset : Nat} (expected : String)
    (hboundary : input.IsBoundary offset) (hlt : offset < input.size) :
    ∃ consumed rest error, input = consumed ++ rest ∧ consumed.size = offset ∧
      at? input ⟨offset, expected⟩ = some error ∧
      rest.before? (previewEnd rest) = some (rest.take 12) ∧
      (rest.take 12).length = min 12 rest.length ∧
      error.message = s!"expected {expected} at character {error.character}, got '" ++
        ((if 0 < offset then "..." else "") ++ String.ofList (rest.take 12) ++
          (if 12 < rest.length then "..." else "")) ++
        "'" ++ "\n    parsing: '" ++ String.ofList input ++ "'" := by
  obtain ⟨consumed, rest, rfl, rfl⟩ := hboundary
  have hrest : rest ≠ [] := by
    rintro rfl
    simp at hlt
  exact ⟨consumed, rest, _, rfl, rfl, at?_of_rest expected hrest, before?_previewEnd rest,
    List.length_take, rfl⟩

theorem message_quotes_umlauts :
    ∃ consumed rest error, "xäbcdefghijköüz".toList = consumed ++ rest ∧ Text.size consumed = 1 ∧
      at? "xäbcdefghijköüz".toList ⟨1, "'y'"⟩ = some error ∧
      Text.before? rest (previewEnd rest) = some (rest.take 12) ∧
      (rest.take 12).length = min 12 rest.length ∧
      error.message = "expected " ++ "'y'" ++ " at character " ++ toString error.character ++
        ", got '" ++ ("..." ++ String.ofList (rest.take 12) ++
          (if 12 < rest.length then "..." else "")) ++
        "'" ++ "\n    parsing: '" ++ String.ofList "xäbcdefghijköüz".toList ++ "'" :=
  message_quotes_window "'y'" (by decide) (by decide)

end ParseError

end Descent
