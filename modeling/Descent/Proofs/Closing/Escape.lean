import Descent.Proofs.Closing
import Descent.Regex.Escape

/-!
# Escapes before a closing parenthesis

An escape ends with its last digit, its name or its brace, never because the source does.
-/

namespace Descent.Regex

namespace Closes

variable {cs closed : List Char}

theorem exactDigits (verbose : Bool) (count : Nat) (h : Closes cs closed) :
    Agree (Escape.exactDigits verbose count cs) (Escape.exactDigits verbose count closed) := by
  induction count generalizing cs closed with
  | zero => exact .ok [] h
  | succ count ih =>
    cases h with
    | swallowed | closed => exact .error _ _
    | cons c h =>
      unfold Escape.exactDigits
      split
      · refine (ih (h.skipBlanks verbose)).bind ?_
        intro digits rest rest' _ hrest
        exact .ok (c :: digits) hrest
      · exact .error _ _

theorem codeDigits (verbose : Bool) (count : Nat) (h : Closes cs closed) :
    Agree (Escape.codeDigits verbose count cs) (Escape.codeDigits verbose count closed) := by
  have hleft := h.skipBlanks verbose
  unfold Escape.codeDigits
  generalize Regex.skipBlanks verbose cs = left at hleft ⊢
  generalize Regex.skipBlanks verbose closed = left' at hleft ⊢
  split
  · cases hleft with
    | cons _ hinside =>
    split
    · exact .error _ _
    · next hne htaken =>
      obtain ⟨rest', htaken', hrest⟩ := (hinside.skipBlanks verbose).takeSpaced htaken (.inl rfl)
      cases hrest with
      | cons _ hrest =>
      simp only [htaken']
      exact .ok _ hrest
    · exact .error _ _
  · next hother =>
    split
    · cases hleft with
      | cons _ hinside => exact (hother _ rfl).elim
    · exact hleft.exactDigits verbose count

theorem readCode (verbose : Bool) (count : Nat) (h : Closes cs closed) :
    Agree (Escape.readCode verbose count cs) (Escape.readCode verbose count closed) := by
  refine (h.codeDigits verbose count).bind ?_
  intro digits rest rest' _ hrest
  dsimp only
  split
  · exact .ok _ hrest
  · exact .error _ _

theorem readByte {flags : Flags} (h : Closes cs closed) :
    Agree (Escape.readByte flags cs) (Escape.readByte flags closed) := by
  refine (h.readCode flags.verbose 2).bind ?_
  intro escape rest rest' hread hrest
  have hleft := h.skipBlanks flags.verbose
  dsimp only
  unfold Escape.readCode Escape.codeDigits at hread
  generalize Regex.skipBlanks flags.verbose cs = left at hread hleft ⊢
  generalize Regex.skipBlanks flags.verbose closed = left' at hleft ⊢
  cases hleft with
  | swallowed | closed => cases hread
  | cons first hleft =>
    cases escape with
    | char c =>
      dsimp only
      split
      · exact .error _ _
      · exact .ok _ hrest
    | one | assertion => exact .ok _ hrest

theorem readBoundary {flags : Flags} (h : Closes cs closed) :
    Agree (Escape.readBoundary flags cs) (Escape.readBoundary flags closed) := by
  unfold Escape.readBoundary
  split
  · cases h with
    | cons _ hinside =>
    split
    · next htaken =>
      obtain ⟨rest', htaken', -⟩ :=
        (hinside.skipBlanks flags.verbose).takeSpaced htaken (.inl rfl)
      simp only [htaken']
      exact .ok _ (hinside.cons _)
    · next hne htaken =>
      obtain ⟨rest', htaken', hrest⟩ :=
        (hinside.skipBlanks flags.verbose).takeSpaced htaken (.inl rfl)
      cases hrest with
      | cons _ hrest =>
      simp only [htaken']
      split
      · exact .ok _ hrest
      · exact .error _ _
    · exact .error _ _
  · next hother =>
    split
    · cases h with
      | cons _ hinside => exact (hother _ rfl).elim
    · exact .ok _ h

theorem readProperty {flags : Flags} (isNegated : Bool) (h : Closes cs closed) :
    Agree (Escape.readProperty flags isNegated cs)
      (Escape.readProperty flags isNegated closed) := by
  have hleft := h.skipBlanks flags.verbose
  unfold Escape.readProperty
  generalize Regex.skipBlanks flags.verbose cs = left at hleft ⊢
  generalize Regex.skipBlanks flags.verbose closed = left' at hleft ⊢
  split
  · exact .error _ _
  · exact .error _ _
  · cases hleft with
    | cons _ hinside =>
    split
    · next htaken =>
      obtain ⟨rest', htaken', hrest⟩ :=
        (hinside.skipBlanks flags.verbose).takeSpaced htaken (.inr (List.cons_ne_nil _ _))
      cases hrest with
      | cons _ hrest =>
      simp only [htaken']
      exact .value _ Escape.one hrest
    · exact .error _ _
  · next hnot hopen =>
    cases hleft with
    | cons letter hrest =>
    split
    · next heq => cases heq
    · next heq => cases heq; exact (hnot rfl).elim
    · next heq => cases heq; exact (hopen rfl).elim
    · next heq => cases heq; exact .value _ Escape.one hrest

theorem readEscape {flags : Flags} (h : Closes cs closed) :
    Agree (Escape.read flags cs) (Escape.read flags closed) := by
  cases h with
  | swallowed | closed => exact .error _ _
  | cons c h =>
    unfold Escape.read
    split
    · exact .error _ _
    · next heq => cases heq; exact h.readByte
    · next heq => cases heq; exact h.readCode _ 4
    · next heq => cases heq; exact h.readCode _ 8
    · next heq => cases heq; exact h.readBoundary
    · next heq => cases heq; exact h.readProperty false
    · next heq => cases heq; exact h.readProperty true
    · next hx hu hU hb hp hP heq =>
      cases heq
      simp only
      split
      · exact .ok _ h
      · split
        · exact .value _ Escape.one h
        · split
          · exact .ok _ h
          · split
            · exact .ok _ h
            · split
              · exact .error _ _
              · exact .error _ _

end Closes

end Descent.Regex
