import Descent.Proofs.Closing.Escape
import Descent.Regex.Bracket

/-!
# Brackets before a closing parenthesis

A bracket is read up to the bracket that closes it, so what stands behind the source is not reached.
Whether a hyphen makes a range depends on what is seen over the blanks; only where the source ends
in such blanks can a parenthesis be seen instead, and there no bracket is closed.
-/

namespace Descent.Regex

namespace Closes

variable {cs closed : List Char}

theorem takeHyphens (verbose : Bool) (h : Closes cs closed) :
    (Bracket.takeHyphens verbose closed).1 = (Bracket.takeHyphens verbose cs).1 ∧
      Closes (Bracket.takeHyphens verbose cs).2 (Bracket.takeHyphens verbose closed).2 := by
  fun_induction Bracket.takeHyphens verbose cs generalizing closed with
  | case1 =>
    cases h with
    | swallowed => simpa [Bracket.takeHyphens] using Closes.swallowed
    | closed => simpa [Bracket.takeHyphens] using Closes.closed
  | case2 cs count rest hrest ih =>
    cases h with
    | cons _ h =>
      obtain ⟨hcount, hcloses⟩ := ih (h.skipBlanks verbose)
      rw [hrest] at hcount hcloses
      simpa [Bracket.takeHyphens, hrest, hcount] using hcloses
  | case3 c cs hc =>
    cases h with
    | cons _ h => simpa [Bracket.takeHyphens, hc] using h.cons c

theorem takeCaret (verbose : Bool) (h : Closes cs closed) :
    (Bracket.takeCaret verbose closed).1 = (Bracket.takeCaret verbose cs).1 ∧
      Closes (Bracket.takeCaret verbose cs).2 (Bracket.takeCaret verbose closed).2 := by
  cases h with
  | swallowed => exact ⟨rfl, .swallowed⟩
  | closed => exact ⟨rfl, .closed⟩
  | cons c h =>
    by_cases hc : c = '^'
    · subst hc
      exact ⟨rfl, h.skipBlanks verbose⟩
    · simpa [Bracket.takeCaret, hc] using h.cons c

theorem openingOf (flags : Flags) (h : Closes cs closed) :
    (Bracket.openingOf flags closed).1 = (Bracket.openingOf flags cs).1 ∧
      Closes (Bracket.openingOf flags cs).2 (Bracket.openingOf flags closed).2 := by
  obtain ⟨hnegated, hinside⟩ := (h.skipBlanks flags.verbose).takeCaret flags.verbose
  obtain ⟨hcount, hrest⟩ := hinside.takeHyphens flags.verbose
  unfold Bracket.openingOf
  simp only [hnegated, hcount]
  generalize (Bracket.takeHyphens _ _).1 = count
  generalize Prod.snd (Bracket.takeHyphens _ _) = rest at hrest ⊢
  generalize Prod.snd (Bracket.takeHyphens _ _) = rest' at hrest ⊢
  cases count with
  | succ count => exact ⟨rfl, hrest⟩
  | zero =>
    cases hrest with
    | swallowed => exact ⟨rfl, .swallowed⟩
    | closed => exact ⟨rfl, .closed⟩
    | cons c hrest =>
      by_cases hc : c = ']'
      · subst hc
        exact ⟨rfl, hrest⟩
      · simpa [hc] using hrest.cons c

theorem named? (flags : Flags) (h : Closes cs closed) :
    (Bracket.named? flags cs = none ∧ Bracket.named? flags closed = none) ∨
      ∃ c rest rest', Bracket.named? flags cs = some (c, rest) ∧
        Bracket.named? flags closed = some (c, rest') ∧ Closes rest rest' := by
  cases h with
  | swallowed | closed => exact .inl ⟨rfl, rfl⟩
  | cons c h =>
  by_cases hc : c = ':'
  · subst hc
    obtain ⟨hnegated, hinside⟩ := h.takeCaret false
    have hleft := hinside.dropWhile (· != ':')
    have hname := hinside.takeWhile_eq (p := (· != ':'))
    simp only [Bracket.named?, hnegated]
    generalize Prod.snd (Bracket.takeCaret false _) = inside at hleft hname ⊢
    generalize Prod.snd (Bracket.takeCaret false _) = inside' at hleft hname ⊢
    generalize inside.dropWhile (· != ':') = left at hleft hname ⊢
    generalize inside'.dropWhile (· != ':') = left' at hleft ⊢
    split
    · cases hleft with
      | cons _ hleft =>
      cases hleft with
      | cons _ hrest =>
      rw [hname (List.cons_ne_nil _ _)]
      simp only
      cases CharClass.named.lookup _ with
      | none => exact .inl ⟨rfl, rfl⟩
      | some c => exact .inr ⟨_, _, _, rfl, rfl, hrest⟩
    · next hother =>
      refine .inl ⟨rfl, ?_⟩
      split
      · cases hleft with
        | cons _ hleft =>
        cases hleft with
        | cons _ hrest => exact (hother _ rfl).elim
      · rfl
  · simp [Bracket.named?, hc]

theorem readItem {flags : Flags} (h : Closes cs closed) :
    Agree (Bracket.readItem flags cs) (Bracket.readItem flags closed) := by
  cases h with
  | swallowed | closed => exact .error _ _
  | cons c h =>
    by_cases hc : c = '\\'
    · subst hc
      exact h.readEscape
    · simpa [Bracket.readItem, hc] using Agree.ok (Escape.char c) h

theorem rangeEnd? (flags : Flags) (h : Closes cs closed) :
    (Bracket.rangeEnd? flags cs = none ∧ Bracket.rangeEnd? flags closed = none) ∨
      ∃ rest rest', Bracket.rangeEnd? flags cs = some rest ∧
        (rest = [] ∨ Bracket.rangeEnd? flags closed = some rest' ∧ Closes rest rest') := by
  have hleft := h.skipBlanks flags.verbose
  unfold Bracket.rangeEnd?
  generalize Regex.skipBlanks flags.verbose cs = left at hleft ⊢
  generalize Regex.skipBlanks flags.verbose closed = left' at hleft ⊢
  cases hleft with
  | swallowed | closed => exact .inl ⟨rfl, rfl⟩
  | @cons c inside inside' hinside =>
    by_cases hc : c = '-'
    · subst hc
      simp only
      rcases hinside.peekOver flags.verbose with hpeek | ⟨hnone, hblank⟩
      · rw [hpeek]
        split
        · exact .inl ⟨rfl, rfl⟩
        · exact .inl ⟨rfl, rfl⟩
        · exact .inr ⟨_, _, rfl, .inr ⟨rfl, hinside.skipBlanks flags.verbose⟩⟩
      · rw [hnone]
        split
        · next hpeek => exact absurd (hblank _ hpeek) (by decide)
        · next hpeek => exact absurd (hblank _ hpeek) (by decide)
        · -- The range has no end, so the bracket that it stands in cannot be read.
          exact .inr ⟨[], [], rfl, .inl rfl⟩
    · simp [hc]

theorem readRange {flags : Flags} (h : Closes cs closed) :
    Agree (Bracket.readRange flags cs) (Bracket.readRange flags closed) := by
  refine h.readItem.bind ?_
  intro first rest rest' _ hrest
  dsimp only
  rcases hrest.rangeEnd? flags with ⟨hnone, hnone'⟩ | ⟨inside, inside', hsome, hinside⟩
  · rw [hnone, hnone']
    exact .value (Bracket.itemClass flags first) id hrest
  · rw [hsome]
    rcases hinside with rfl | ⟨hsome', hinside⟩
    · exact .error _ _
    · rw [hsome']
      refine hinside.readItem.bind ?_
      intro last rest rest' _ hrest
      dsimp only
      split
      · split
        · exact .value _ id hrest
        · exact .error _ _
      · exact .error _ _

theorem step {flags : Flags} {opening : Bracket.Opening} {outer : List Bracket.Opening}
    (h : Closes cs closed) :
    Agree (Bracket.step flags opening outer cs) (Bracket.step flags opening outer closed) := by
  have hleft := h.skipBlanks flags.verbose
  unfold Bracket.step
  generalize Regex.skipBlanks flags.verbose cs = left at hleft ⊢
  generalize Regex.skipBlanks flags.verbose closed = left' at hleft ⊢
  split
  · exact .error _ _
  · cases hleft with
    | cons _ hinside =>
    rcases hinside.named? flags with ⟨hnone, hnone'⟩ | ⟨c, rest, rest', hsome, hsome', hrest⟩
    · obtain ⟨hopening, hrest⟩ := hinside.openingOf flags
      simp only [hnone, hnone', hopening]
      exact .ok _ hrest
    · simp only [hsome, hsome']
      exact .value _ (fun c => Bracket.Progress.inside (opening.add (.ofClass c)) outer) hrest
  · cases hleft with
    | cons _ hrest => exact .value _ (Bracket.Progress.after · outer) hrest
  · cases hleft with
    | cons _ hleft =>
    cases hleft with
    | cons _ hrest => exact .ok _ hrest
  · cases hleft with
    | cons _ hleft =>
    cases hleft with
    | cons _ hrest => exact .ok _ hrest
  · cases hleft with
    | cons _ hleft =>
    cases hleft with
    | cons _ hrest => exact .ok _ hrest
  · -- A range comes last: the closed rest must not start like any of the others either.
    next hnil hopen hclose hinter hdiff hsymmDiff =>
    have hopen' : ∀ tail, left' = '[' :: tail → False :=
      hleft.ne_append ['['] (by decide) hopen
    have hclose' : ∀ tail, left' = ']' :: tail → False :=
      hleft.ne_append [']'] (by decide) hclose
    have hinter' : ∀ tail, left' = '&' :: '&' :: tail → False :=
      hleft.ne_append ['&', '&'] (by decide) hinter
    have hdiff' : ∀ tail, left' = '-' :: '-' :: tail → False :=
      hleft.ne_append ['-', '-'] (by decide) hdiff
    have hsymmDiff' : ∀ tail, left' = '~' :: '~' :: tail → False :=
      hleft.ne_append ['~', '~'] (by decide) hsymmDiff
    have hnil' : left' = [] → False := by
      rintro rfl
      cases hleft
      exact hnil rfl
    simp only
    exact hleft.readRange.bind fun c rest rest' _ hrest => .ok _ hrest

theorem readInside {flags : Flags} {opening : Bracket.Opening} {outer : List Bracket.Opening}
    (h : Closes cs closed) :
    Agree (Bracket.readInside flags opening outer cs)
      (Bracket.readInside flags opening outer closed) := by
  intro item rest hread
  fun_induction Bracket.readInside flags opening outer cs generalizing closed with
  | case1 => cases hread
  | case2 opening outer cs item' rest' hstep =>
    cases hread
    obtain ⟨left', hstep', hleft⟩ := h.step _ _ hstep
    refine ⟨left', ?_, hleft⟩
    unfold Bracket.readInside
    split
    · next heq => cases heq.symm.trans hstep'
    · next heq => cases heq.symm.trans hstep'; rfl
    · next heq => cases heq.symm.trans hstep'
  | case3 opening outer cs opening' outer' left hstep ih =>
    obtain ⟨left', hstep', hleft⟩ := h.step _ _ hstep
    obtain ⟨rest', hread', hrest⟩ := ih hleft hread
    refine ⟨rest', ?_, hrest⟩
    rw [← hread', Bracket.readInside]
    split
    · next heq => cases heq.symm.trans hstep'
    · next heq => cases heq.symm.trans hstep'
    · next heq => cases heq.symm.trans hstep'; rfl

theorem readBracket {flags : Flags} (h : Closes cs closed) :
    Agree (Bracket.read flags cs) (Bracket.read flags closed) := by
  obtain ⟨hopening, hrest⟩ := h.openingOf flags
  unfold Bracket.read
  simp only [hopening]
  exact hrest.readInside

end Closes

end Descent.Regex
