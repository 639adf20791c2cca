import Descent.Regex.Blank
import Descent.Regex.Error

/-!
# Reading on into a closing parenthesis

Whatever can be read of a source is read in the same way if a closing parenthesis follows the
source. What is then left differs in the parenthesis alone, and not even in that once a comment at
the end has swallowed it.
-/

namespace Descent.Regex

/-- What is left of a source, and what is left of it with a closing parenthesis behind. -/
inductive Closes : List Char → List Char → Prop where
  | swallowed : Closes [] []
  | closed : Closes [] [')']
  | cons (c : Char) {cs closed : List Char} (h : Closes cs closed) : Closes (c :: cs) (c :: closed)

/-- Where a reader succeeds on what is left, it succeeds on the closed rest with the same value. -/
def Agree {α : Type} (found closed : Except Error (α × List Char)) : Prop :=
  ∀ a rest, found = .ok (a, rest) → ∃ rest', closed = .ok (a, rest') ∧ Closes rest rest'

namespace Agree

variable {α β : Type} {found closed : Except Error (α × List Char)} {rest rest' : List Char}

theorem error (e : Error) (closed : Except Error (α × List Char)) : Agree (.error e) closed := by
  rintro a rest ⟨⟩

theorem ok (a : α) (h : Closes rest rest') : Agree (.ok (a, rest)) (.ok (a, rest')) := by
  rintro _ _ ⟨⟩
  exact ⟨rest', rfl, h⟩

/-- What is left does not depend on the value. -/
theorem value (made : Except Error α) (make : α → β) (h : Closes rest rest') :
    Agree (made.map fun a => (make a, rest)) (made.map fun a => (make a, rest')) := by
  cases made with
  | error e => exact error e _
  | ok a => exact ok (make a) h

theorem map (h : Agree found closed) (make : α → β) :
    Agree (found.map fun (a, rest) => (make a, rest))
      (closed.map fun (a, rest) => (make a, rest)) := by
  cases found with
  | error e => exact error e _
  | ok pair =>
    obtain ⟨a, rest⟩ := pair
    obtain ⟨rest', rfl, hrest⟩ := h a rest rfl
    exact ok (make a) hrest

theorem bind (h : Agree found closed) {next next' : α × List Char → Except Error (β × List Char)}
    (hnext : ∀ a rest rest', found = .ok (a, rest) → Closes rest rest' →
      Agree (next (a, rest)) (next' (a, rest'))) : Agree (found >>= next) (closed >>= next') := by
  cases found with
  | error e => exact error e _
  | ok pair =>
    obtain ⟨a, rest⟩ := pair
    obtain ⟨rest', rfl, hrest⟩ := h a rest rfl
    exact hnext a rest rest' rfl hrest

end Agree

/-! ### Texts of blanks -/

theorem dropBlanks_dropWhile (cs : List Char) :
    dropBlanks false (cs.dropWhile Text.isWhiteSpace) = dropBlanks false cs := by
  induction cs with
  | nil => rfl
  | cons c cs ih =>
    by_cases hc : Text.isWhiteSpace c = true
    · rw [List.dropWhile_cons_of_pos hc, ih]
      simp [dropBlanks, hc]
    · rw [List.dropWhile_cons_of_neg hc]

theorem dropBlanks_eq_nil {cs : List Char} (h : cs.dropWhile Text.isWhiteSpace = [])
    (comment : Bool) : dropBlanks comment cs = [] := by
  induction cs generalizing comment with
  | nil => rfl
  | cons c cs ih =>
    by_cases hc : Text.isWhiteSpace c = true
    · rw [List.dropWhile_cons_of_pos hc] at h
      simp [dropBlanks, hc, ih h]
    · rw [List.dropWhile_cons_of_neg hc] at h
      cases h

theorem isWhiteSpace_of_mem_head? {c : Char} {cs : List Char} (h : c ∈ cs.head?) :
    Text.isWhiteSpace c = true ∨ c ∈ (cs.dropWhile Text.isWhiteSpace).head? := by
  cases cs with
  | nil => cases h
  | cons first cs =>
    cases h
    by_cases hc : Text.isWhiteSpace c = true
    · exact .inl hc
    · rw [List.dropWhile_cons_of_neg hc]
      exact .inr rfl

namespace Closes

variable {cs closed : List Char}

theorem append_parenthesis (cs : List Char) : Closes cs (cs ++ [')']) := by
  induction cs with
  | nil => exact .closed
  | cons c cs ih => exact .cons c ih

/-- What does not start in some way does not start so when it is closed either. -/
theorem ne_append (start : List Char) (hstart : ')' ∉ start) (h : Closes cs closed)
    (hne : ∀ tail, cs = start ++ tail → False) : ∀ tail, closed = start ++ tail → False := by
  induction h generalizing start with
  | swallowed => exact hne
  | closed =>
    cases start with
    | nil => exact (hne [] rfl).elim
    | cons c start =>
      rintro tail htail
      rw [List.cons_append, List.cons.injEq] at htail
      exact hstart (htail.1 ▸ List.mem_cons_self)
  | cons c h ih =>
    cases start with
    | nil => exact (hne _ rfl).elim
    | cons d start =>
      rintro tail htail
      cases htail
      refine ih start (fun h => hstart (List.mem_cons_of_mem _ h)) ?_ tail rfl
      rintro tail rfl
      exact hne tail rfl

theorem dropWhile (p : Char → Bool) (h : Closes cs closed) :
    Closes (cs.dropWhile p) (closed.dropWhile p) := by
  induction h with
  | swallowed => exact .swallowed
  | closed =>
    by_cases hp : p ')' = true
    · simpa [hp] using Closes.swallowed
    · simpa [hp] using Closes.closed
  | cons c h ih =>
    by_cases hc : p c = true
    · simpa [hc] using ih
    · simpa [hc] using h.cons c

theorem takeWhile_eq {p : Char → Bool} (h : Closes cs closed) (hstop : cs.dropWhile p ≠ []) :
    closed.takeWhile p = cs.takeWhile p := by
  induction h with
  | swallowed | closed => exact absurd rfl hstop
  | cons c h ih =>
    by_cases hc : p c = true
    · rw [List.dropWhile_cons_of_pos hc] at hstop
      rw [List.takeWhile_cons_of_pos hc, List.takeWhile_cons_of_pos hc, ih hstop]
    · rw [List.takeWhile_cons_of_neg hc, List.takeWhile_cons_of_neg hc]

/-! ### Blanks -/

theorem dropBlanks (comment : Bool) (h : Closes cs closed) :
    Closes (Regex.dropBlanks comment cs) (Regex.dropBlanks comment closed) := by
  induction h generalizing comment with
  | swallowed => exact .swallowed
  | closed =>
    cases comment with
    | true => exact .swallowed
    | false => exact .closed
  | cons c h ih =>
    unfold Regex.dropBlanks
    split
    · exact ih _
    · split
      · exact ih false
      · split
        · exact ih true
        · exact h.cons c

theorem skipBlanks (verbose : Bool) (h : Closes cs closed) :
    Closes (Regex.skipBlanks verbose cs) (Regex.skipBlanks verbose closed) := by
  unfold Regex.skipBlanks
  split
  · exact h.dropBlanks false
  · exact h

theorem takeSpaced {verbose : Bool} {isKind : Char → Bool} {taken rest : List Char}
    (h : Closes cs closed) (htaken : Regex.takeSpaced verbose isKind cs = (taken, rest))
    (hstop : isKind ')' = false ∨ rest ≠ []) :
    ∃ rest', Regex.takeSpaced verbose isKind closed = (taken, rest') ∧ Closes rest rest' := by
  fun_induction Regex.takeSpaced verbose isKind cs generalizing closed taken rest with
  | case1 =>
    cases htaken
    cases h with
    | swallowed => exact ⟨[], by rw [Regex.takeSpaced], .swallowed⟩
    | closed =>
      rcases hstop with hstop | hstop
      · exact ⟨[')'], by simp [Regex.takeSpaced, hstop], .closed⟩
      · exact absurd rfl hstop
  | case2 c cs hc taken rest hrest ih =>
    cases htaken
    cases h with
    | cons c h =>
      obtain ⟨rest', hrest', hcloses⟩ := ih (h.skipBlanks verbose) hrest hstop
      exact ⟨rest', by simp [Regex.takeSpaced, hc, hrest'], hcloses⟩
  | case3 c cs hc =>
    cases htaken
    cases h with
    | cons c h => exact ⟨_, by simp [Regex.takeSpaced, hc], h.cons c⟩

/-- Where nothing but blanks follows, the character that is seen over them is a blank itself. -/
theorem peekOver (verbose : Bool) (h : Closes cs closed) :
    Regex.peekOver verbose closed = Regex.peekOver verbose cs ∨
      Regex.skipBlanks verbose cs = [] ∧
        ∀ c ∈ Regex.peekOver verbose cs, Text.isWhiteSpace c = true ∨ c = '#' := by
  cases verbose with
  | false =>
    cases h with
    | swallowed | cons => exact .inl rfl
    | closed => exact .inr ⟨rfl, by simp [Regex.peekOver]⟩
  | true =>
    have hleft := h.dropWhile Text.isWhiteSpace
    simp only [Regex.peekOver, Regex.skipBlanks, if_true, ← dropBlanks_dropWhile cs]
    have hhead : ∀ c ∈ cs.head?, Text.isWhiteSpace c = true ∨
        c ∈ (cs.dropWhile Text.isWhiteSpace).head? := fun c => isWhiteSpace_of_mem_head?
    generalize cs.dropWhile Text.isWhiteSpace = left at hleft hhead ⊢
    generalize closed.dropWhile Text.isWhiteSpace = left' at hleft ⊢
    cases hleft with
    | swallowed | closed =>
      refine .inr ⟨rfl, ?_⟩
      intro c hc
      exact .inl ((hhead c hc).resolve_right (by simp))
    | @cons c after after' hleft =>
      by_cases hcomment : c = '#'
      · subst hcomment
        have hrest := hleft.dropWhile Text.isWhiteSpace
        have hblanks : after.dropWhile Text.isWhiteSpace = [] →
            Regex.dropBlanks true after = [] := fun h => dropBlanks_eq_nil h true
        simp only
        generalize after.dropWhile Text.isWhiteSpace = rest at hrest hblanks ⊢
        generalize after'.dropWhile Text.isWhiteSpace = rest' at hrest ⊢
        cases hrest with
        | swallowed | closed =>
          -- Behind the number sign there is only white space, and all of it is skipped.
          refine .inr ⟨hblanks rfl, ?_⟩
          intro c hc
          exact (hhead c hc).imp_right fun h => (Option.some_inj.mp h).symm
        | cons c hrest => exact .inl rfl
      · simp [hcomment]

end Closes

end Descent.Regex
