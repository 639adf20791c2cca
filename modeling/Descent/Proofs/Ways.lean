import Descent.Proofs.Passage

/-!
# Ways and passages

The ways in which an expression can go on from a place are its passages from there, put into an
order of preference. Of the passages that only add rounds in which nothing is taken some are left
out; they come to no place to which there is no other way.
-/

namespace Descent.Regex

/-- What `step` tries are passages, and wherever a passage comes to, `step` gets there. -/
structure Tries (step : Way → List Way) (R : Passage (Nat × Span)) : Prop where
  sound : ∀ ⦃way next⦄, next ∈ step way →
    ∃ trail, R way.place trail next.place ∧ next.groups = trail ++ way.groups
  complete : ∀ ⦃way trail q⦄, R way.place trail q → ∃ next ∈ step way, next.place = q
  forward : R.IsForward

namespace Way

variable {many : Bool} {step : Way → List Way} {others : List Way} {left : Nat} {way next : Way}

theorem mem_more : next ∈ more many others way ↔ next ∈ others ∨ next = way := by
  cases many <;> simp [more, or_comm]

theorem mem_further_self (left : Nat) (way : Way) : way ∈ further many step left way := by
  cases left with
  | zero => exact .head _
  | succ left => exact mem_more.mpr (.inr rfl)

theorem isPast_iff {earlier : Way} :
    way.isPast earlier = true ↔ way.place.rest.length < earlier.place.rest.length :=
  decide_eq_true_iff

end Way

namespace Tries

open Way

variable {step step' : Way → List Way} {R R' : Passage (Nat × Span)}

theorem stay : Tries (fun way => [way]) .stay where
  sound := by
    rintro way next hnext
    cases List.mem_singleton.mp hnext
    exact ⟨[], ⟨rfl, rfl⟩, rfl⟩
  complete := by
    rintro way _ _ ⟨-, rfl⟩
    exact ⟨way, .head _, rfl⟩
  forward := Passage.isForward_stay

theorem take (c : CharClass) : Tries (Way.take c) (.take c) where
  sound := by
    rintro way next hnext
    unfold Way.take at hnext
    split at hnext
    · cases hnext
    · next d rest hrest =>
      split at hnext
      · next hmember =>
        cases List.mem_singleton.mp hnext
        exact ⟨[], ⟨rfl, d, rest, hrest, hmember, rfl⟩, rfl⟩
      · cases hnext
  complete := by
    rintro way _ _ ⟨-, d, rest, hrest, hmember, rfl⟩
    refine ⟨{ way with place := way.place.advance d rest }, ?_, rfl⟩
    simp [Way.take, hrest, hmember]
  forward := Passage.isForward_take c

theorem test (a : Assertion) :
    Tries (fun way => if way.place.satisfies a then [way] else []) (.test a) where
  sound := by
    intro way next hnext
    split at hnext
    · next hholds =>
      cases List.mem_singleton.mp hnext
      exact ⟨[], ⟨rfl, hholds, rfl⟩, rfl⟩
    · cases hnext
  complete := by
    rintro way _ _ ⟨-, hholds, rfl⟩
    exact ⟨way, by simp [hholds], rfl⟩
  forward := Passage.isForward_test a

theorem capture (h : Tries step R) (index : Nat) :
    Tries (fun way => (step way).map (close index way.place.index)) (R.capture index) where
  sound := by
    intro way next hnext
    obtain ⟨inner, hinner, rfl⟩ := List.mem_map.mp hnext
    obtain ⟨trail, hpassage, hgroups⟩ := h.sound hinner
    exact ⟨_, ⟨trail, hpassage, rfl⟩, congrArg _ hgroups⟩
  complete := by
    rintro way _ _ ⟨trail, hpassage, -⟩
    obtain ⟨next, hnext, rfl⟩ := h.complete hpassage
    exact ⟨_, List.mem_map_of_mem hnext, rfl⟩
  forward _ _ hleads := h.forward (Passage.leads_capture.mp hleads)

theorem seq (h : Tries step R) (h' : Tries step' R') :
    Tries (fun way => (step way).flatMap step') (R.andThen R') where
  sound := by
    intro way next hnext
    obtain ⟨middle, hmiddle, hnext⟩ := List.mem_flatMap.mp hnext
    obtain ⟨early, hearly, hgroups⟩ := h.sound hmiddle
    obtain ⟨late, hlate, hgroups'⟩ := h'.sound hnext
    refine ⟨late ++ early, ⟨early, middle.place, late, hearly, hlate, rfl⟩, ?_⟩
    rw [hgroups', hgroups, List.append_assoc]
  complete := by
    rintro way _ q ⟨early, _, late, hearly, hlate, -⟩
    obtain ⟨middle, hmiddle, rfl⟩ := h.complete hearly
    obtain ⟨next, hnext, rfl⟩ := h'.complete hlate
    exact ⟨next, List.mem_flatMap_of_mem hmiddle hnext, rfl⟩
  forward := h.forward.andThen h'.forward

theorem either (h : Tries step R) (h' : Tries step' R') :
    Tries (fun way => step way ++ step' way) (R.either R') where
  sound := by
    intro way next hnext
    rcases List.mem_append.mp hnext with hnext | hnext
    · obtain ⟨trail, hpassage, hgroups⟩ := h.sound hnext
      exact ⟨trail, .inl hpassage, hgroups⟩
    · obtain ⟨trail, hpassage, hgroups⟩ := h'.sound hnext
      exact ⟨trail, .inr hpassage, hgroups⟩
  complete := by
    rintro way trail q (hpassage | hpassage)
    · obtain ⟨next, hnext, rfl⟩ := h.complete hpassage
      exact ⟨next, List.mem_append_left _ hnext, rfl⟩
    · obtain ⟨next, hnext, rfl⟩ := h'.complete hpassage
      exact ⟨next, List.mem_append_right _ hnext, rfl⟩
  forward := h.forward.either h'.forward

/-- Which of two is preferred makes no difference to the passages. -/
theorem of_mem_iff (h : Tries step R) (hmem : ∀ way next, next ∈ step' way ↔ next ∈ step way) :
    Tries step' R where
  sound way next hnext := h.sound ((hmem way next).mp hnext)
  complete way trail q hpassage := by
    obtain ⟨next, hnext, rfl⟩ := h.complete hpassage
    exact ⟨next, (hmem way next).mpr hnext, rfl⟩
  forward := h.forward

theorem more (h : Tries step R) (many : Bool) :
    Tries (fun way => Way.more many (step way) way) (R.either .stay) := by
  refine (h.either .stay).of_mem_iff fun way next => ?_
  rw [mem_more, List.mem_append, List.mem_singleton]

theorem exactly (h : Tries step R) (count : Nat) :
    Tries (Way.exactly step count) (R.times count) := by
  induction count with
  | zero => exact .stay
  | succ count ih =>
    rw [Passage.times_succ]
    exact h.seq ih

theorem atMost (h : Tries step R) (many : Bool) (count : Nat) :
    Tries (Way.atMost many step count) (R.rounds 0 (some count)) := by
  induction count with
  | zero =>
    rw [Passage.rounds_some_zero]
    exact .stay
  | succ count ih =>
    rw [← Passage.rounds_some_succ]
    exact (h.seq ih).more many

theorem times_of_mem_further (h : Tries step R) {many : Bool} {left : Nat} {way next : Way}
    (hnext : next ∈ further many step left way) :
    ∃ count trail, R.times count way.place trail next.place ∧
      next.groups = trail ++ way.groups := by
  induction left generalizing way with
  | zero =>
    cases List.mem_singleton.mp hnext
    exact ⟨0, [], ⟨rfl, rfl⟩, rfl⟩
  | succ left ih =>
    rcases mem_more.mp hnext with hmore | rfl
    · obtain ⟨middle, hmiddle, hmore⟩ := List.mem_flatMap.mp hmore
      split at hmore
      · obtain ⟨early, hearly, hgroups⟩ := h.sound hmiddle
        obtain ⟨count, late, hlate, hgroups'⟩ := ih hmore
        refine ⟨count + 1, late ++ early, ?_, ?_⟩
        · rw [Passage.times_succ]
          exact ⟨early, middle.place, late, hearly, hlate, rfl⟩
        · rw [hgroups', hgroups, List.append_assoc]
      · cases hmore
    · exact ⟨0, [], ⟨rfl, rfl⟩, rfl⟩

/-- Rounds that take nothing come to no other place, so they can be left out. -/
theorem exists_mem_further (h : Tries step R) (many : Bool) {count left : Nat} {way : Way}
    {trail : List (Nat × Span)} {q : Place} (hleft : way.place.rest.length ≤ left)
    (htimes : R.times count way.place trail q) :
    ∃ next ∈ further many step left way, next.place = q := by
  induction count generalizing way trail left with
  | zero =>
    obtain ⟨-, rfl⟩ := htimes
    exact ⟨way, mem_further_self left way, rfl⟩
  | succ count ih =>
    rw [Passage.times_succ] at htimes
    obtain ⟨early, middle, late, hround, hmore, -⟩ := htimes
    rcases h.forward ⟨early, hround⟩ with rfl | hlt
    · exact ih hleft hmore
    · obtain ⟨next, hnext, rfl⟩ := h.complete hround
      cases left with
      | zero => exact absurd (Nat.lt_of_lt_of_le hlt hleft) (Nat.not_lt_zero _)
      | succ left =>
        obtain ⟨last, hlast, rfl⟩ := ih (Nat.le_of_lt_succ (Nat.lt_of_lt_of_le hlt hleft)) hmore
        refine ⟨last, mem_more.mpr (.inl (List.mem_flatMap_of_mem hnext ?_)), rfl⟩
        rwa [if_pos (isPast_iff.mpr hlt)]

/-- A first round that takes nothing can be left out too, unless it is the last one. -/
theorem exists_mem_atLeastOnce (h : Tries step R) (many : Bool) {count : Nat} {way : Way}
    {trail : List (Nat × Span)} {q : Place} (htimes : R.times (count + 1) way.place trail q) :
    ∃ next ∈ Way.atLeastOnce many step way, next.place = q := by
  induction count generalizing trail with
  | zero =>
    rw [Passage.times_one] at htimes
    obtain ⟨next, hnext, rfl⟩ := h.complete htimes
    refine ⟨next, List.mem_flatMap_of_mem hnext ?_, rfl⟩
    split
    · exact mem_further_self _ next
    · exact .head _
  | succ count ih =>
    rw [Passage.times_succ] at htimes
    obtain ⟨early, middle, late, hround, hmore, -⟩ := htimes
    rcases h.forward ⟨early, hround⟩ with rfl | hlt
    · exact ih hmore
    · obtain ⟨next, hnext, rfl⟩ := h.complete hround
      obtain ⟨last, hlast, rfl⟩ := h.exists_mem_further many (Nat.le_refl _) hmore
      refine ⟨last, List.mem_flatMap_of_mem hnext ?_, rfl⟩
      rwa [if_pos (isPast_iff.mpr hlt)]

theorem atLeastOnce (h : Tries step R) (many : Bool) :
    Tries (Way.atLeastOnce many step) (R.rounds 1 none) where
  sound := by
    intro way next hnext
    obtain ⟨first, hfirst, hnext⟩ := List.mem_flatMap.mp hnext
    obtain ⟨early, hearly, hgroups⟩ := h.sound hfirst
    have hrest : ∃ count late, R.times count first.place late next.place ∧
        next.groups = late ++ first.groups := by
      split at hnext
      · exact h.times_of_mem_further hnext
      · cases List.mem_singleton.mp hnext
        exact ⟨0, [], ⟨rfl, rfl⟩, rfl⟩
    obtain ⟨count, late, hlate, hgroups'⟩ := hrest
    refine ⟨late ++ early, ⟨count + 1, Nat.le_add_left 1 count, by simp, ?_⟩, ?_⟩
    · rw [Passage.times_succ]
      exact ⟨early, first.place, late, hearly, hlate, rfl⟩
    · rw [hgroups', hgroups, List.append_assoc]
  complete := by
    rintro way trail q ⟨count, hleast, -, htimes⟩
    obtain ⟨count, rfl⟩ := Nat.exists_eq_add_of_le' hleast
    exact h.exists_mem_atLeastOnce many htimes
  forward := h.forward.rounds 1 none

theorem repeated (h : Tries step R) (r : Repetition) :
    Tries (fun way => way.repeated r step) (R.repeated r) := by
  obtain ⟨least, most, many⟩ := r
  cases most with
  | some most =>
    have hrounds : R.repeated ⟨least, some most, many⟩ =
        (R.times least).andThen (R.rounds 0 (some (most - least))) := by
      rw [Passage.times_andThen_rounds]
      simp only [Passage.repeated, Option.map_some, Nat.add_zero]
      congr
      omega
    rw [hrounds]
    exact (h.exactly least).seq (h.atMost many (most - least))
  | none =>
    cases least with
    | zero =>
      have hrounds : R.repeated ⟨0, none, many⟩ = (R.rounds 1 none).either .stay := by
        rw [← Passage.rounds_one_none, Passage.rounds_none]
        rfl
      rw [hrounds]
      exact (h.atLeastOnce many).more many
    | succ least =>
      have hrounds : R.repeated ⟨least + 1, none, many⟩ =
          (R.times least).andThen (R.rounds 1 none) := by
        rw [Passage.times_andThen_rounds]
        rfl
      rw [hrounds]
      exact (h.exactly least).seq (h.atLeastOnce many)

end Tries

namespace Expr

theorem tries (e : Expr) : Tries e.ways e.passage := by
  induction e with
  | empty => exact .stay
  | one c => exact .take c
  | assertion a => exact .test a
  | group body ih => exact ih
  | capture index body ih => exact ih.capture index
  | concat a b iha ihb => exact iha.seq ihb
  | alternate a b iha ihb => exact iha.either ihb
  | repetition r body ih => exact ih.repeated r

theorem exists_head?_ways_iff (e : Expr) (place : Place) :
    (∃ way, (e.ways (.start place)).head? = some way) ↔ ∃ trail q, e.passage place trail q := by
  constructor
  · rintro ⟨way, hway⟩
    obtain ⟨trail, hpassage, -⟩ := e.tries.sound (List.mem_of_head? hway)
    exact ⟨trail, way.place, hpassage⟩
  · rintro ⟨trail, q, hpassage⟩
    have hfrom : e.passage (Way.start place).place trail q := hpassage
    obtain ⟨way, hway, -⟩ := e.tries.complete hfrom
    exact ⟨_, List.head?_eq_some_head (List.ne_nil_of_mem hway)⟩

end Expr

end Descent.Regex
