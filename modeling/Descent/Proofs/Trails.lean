import Descent.Proofs.Groups
import Descent.Proofs.Trees

/-!
# Trails of trees

The marks that a tree notes of a group come in pairs, its beginning and its end, in this order and
inside the match. A tree has no groups but those of the expression it is made of.
-/

namespace Descent.Regex

namespace Mark

def group : Mark → Nat
  | .opening index | .closing index => index

/-- A mark is about a place in its group. -/
def reading (note : Mark × Nat) : Nat × Span :=
  (note.1.group, { start := note.2, stop := note.2 })

end Mark

namespace Tree

def groups : Tree → List Nat
  | empty | literal _ | one _ | assertion _ => []
  | capture index body => index :: body.groups
  | concat a b | alternate a b => a.groups ++ b.groups
  | repetition _ body => body.groups

variable {t : Tree} {ts us : List Tree} {g : Nat}

theorem groups_ofClass (c : CharClass) : (ofClass c).groups = [] := by
  unfold ofClass
  cases c.only? <;> rfl

theorem groups_ofParts (ts : List Tree) : (ofParts ts).groups = ts.flatMap groups := by
  induction ts with
  | nil => rfl
  | cons t ts ih =>
    cases ts with
    | nil => simp [ofParts]
    | cons u ts => simp only [ofParts, groups, ih, List.flatMap_cons]

theorem groups_parts (t : Tree) : t.parts.flatMap groups = t.groups := by
  induction t with
  | empty => rfl
  | concat a b _ ihb => rw [parts, List.flatMap_cons, ihb, groups]
  | _ => simp [parts]

theorem groups_joinLiterals (ts : List Tree) :
    (joinLiterals ts).flatMap groups = ts.flatMap groups := by
  induction ts with
  | nil => rfl
  | cons t ts ih =>
    rw [joinLiterals.eq_def, List.flatMap_cons, ← ih]
    dsimp only
    split
    · next hjoined =>
      rw [hjoined]
      rfl
    · rfl

theorem groups_concatAll (ts : List Tree) : (concatAll ts).groups = ts.flatMap groups := by
  have hparts : (ts.flatMap parts).flatMap groups = ts.flatMap groups := by
    rw [List.flatMap_assoc]
    simp only [groups_parts]
  rw [concatAll, groups_ofParts, groups_joinLiterals, hparts]

theorem groups_ofOptions (ts : List Tree) : (ofOptions ts).groups = ts.flatMap groups := by
  induction ts with
  | nil => rfl
  | cons t ts ih =>
    cases ts with
    | nil => simp [ofOptions]
    | cons u ts => simp only [ofOptions, groups, ih, List.flatMap_cons]

theorem groups_options (t : Tree) : t.options.flatMap groups = t.groups := by
  induction t with
  | alternate a b _ ihb => rw [options, List.flatMap_cons, ihb, groups]
  | _ => simp [options]

theorem groups_flatMap_options (ts : List Tree) :
    (ts.flatMap options).flatMap groups = ts.flatMap groups := by
  rw [List.flatMap_assoc]
  simp only [groups_options]

theorem groups_chooseFrom (h : g ∈ (chooseFrom ts).groups) : g ∈ ts.flatMap groups := by
  rw [← groups_ofOptions]
  unfold chooseFrom at h
  split at h
  · exact h
  · exact h
  · split at h
    · rw [groups_ofClass] at h
      cases h
    · exact h

/-- What is shared has groups of each alternative, and so has what is left of it. -/
theorem groups_alternateAll (h : g ∈ (alternateAll ts).groups) : g ∈ ts.flatMap groups := by
  rw [← groups_flatMap_options]
  unfold alternateAll at h
  dsimp only at h
  split at h
  · next hone => simpa [hone] using h
  · exact groups_chooseFrom h
  · have hpart : ∀ {t u}, t ∈ ts.flatMap options → u ∈ t.parts → g ∈ u.groups →
        g ∈ (ts.flatMap options).flatMap groups := by
      intro t u ht hu hg
      refine List.mem_flatMap.mpr ⟨t, ht, ?_⟩
      rw [← groups_parts]
      exact List.mem_flatMap_of_mem hu hg
    rw [groups_concatAll, List.flatMap_append, List.mem_append] at h
    rcases h with h | h
    · obtain ⟨u, hu, hg⟩ := List.mem_flatMap.mp h
      obtain ⟨t, ht, hu⟩ := exists_of_mem_sharedStart hu
      exact hpart ht hu hg
    · rw [List.flatMap_singleton] at h
      have hrest := groups_chooseFrom h
      rw [groups_flatMap_options, List.flatMap_map] at hrest
      obtain ⟨t, ht, hg⟩ := List.mem_flatMap.mp hrest
      rw [groups_ofParts] at hg
      obtain ⟨u, hu, hg⟩ := List.mem_flatMap.mp hg
      exact hpart ht (List.mem_of_mem_drop hu) hg

theorem groups_choose (h : g ∈ (choose ts).groups) : g ∈ ts.flatMap groups := by
  unfold choose at h
  split at h
  · simpa using h
  · exact groups_alternateAll h

theorem groups_repeated {r : Repetition} (h : g ∈ (t.repeated r).groups) : g ∈ t.groups := by
  rcases t.repeated_cases r with heq | heq | ⟨r', heq⟩ <;> rw [heq] at h
  · cases h
  · exact h
  · exact h

theorem groups_optionsOf {e : Expr} (h : g ∈ (optionsOf e).flatMap groups) : g ∈ e.groups := by
  induction e with
  | empty | assertion => simp [optionsOf, groups] at h
  | one c => simp [optionsOf, groups_ofClass] at h
  | group body ih =>
    rw [optionsOf, List.flatMap_singleton] at h
    exact ih (groups_choose h)
  | capture index body ih =>
    rw [optionsOf, List.flatMap_singleton] at h
    rcases List.mem_cons.mp h with rfl | h
    · exact .head _
    · exact .tail _ (ih (groups_choose h))
  | concat a b iha ihb =>
    rw [optionsOf, List.flatMap_singleton, groups_concatAll, List.flatMap_cons,
      List.flatMap_singleton] at h
    rcases List.mem_append.mp h with h | h
    · exact List.mem_append_left _ (iha (groups_choose h))
    · exact List.mem_append_right _ (ihb (groups_choose h))
  | alternate a b iha ihb =>
    rw [optionsOf, List.flatMap_cons] at h
    rcases List.mem_append.mp h with h | h
    · exact List.mem_append_left _ (iha (groups_choose h))
    · exact List.mem_append_right _ (ihb h)
  | repetition r body ih =>
    rw [optionsOf, List.flatMap_singleton] at h
    exact ih (groups_choose (groups_repeated h))

theorem groups_ofExpr {e : Expr} (h : g ∈ (ofExpr e).groups) : g ∈ e.groups :=
  groups_optionsOf (groups_choose h)

theorem orderly (t : Tree) {p q : Place} {trail : Trail} (h : t.passage p trail q) :
    Orderly Mark.reading t.groups p trail q := by
  induction t generalizing p trail q with
  | empty =>
    obtain ⟨rfl, rfl⟩ := h
    exact .stay _ _
  | literal s =>
    induction s generalizing p trail with
    | nil =>
      obtain ⟨rfl, rfl⟩ := h
      exact .stay _ _
    | cons c s ih =>
      obtain ⟨_, _, late, ⟨rfl, c', rest, -, -, rfl⟩, hmore, rfl⟩ := h
      exact (Orderly.take _ p c' rest).append (ih hmore)
  | one c =>
    obtain ⟨rfl, c', rest, -, -, rfl⟩ := h
    exact .take _ p c' rest
  | assertion a =>
    obtain ⟨rfl, -, rfl⟩ := h
    exact .stay _ _
  | capture index body ih =>
    obtain ⟨_, _, _, ⟨rfl, rfl⟩, ⟨inner, _, _, hbody, ⟨rfl, rfl⟩, rfl⟩, rfl⟩ := h
    have hinner := ih hbody
    refine ⟨hinner.index_le, fun note hmem => ?_⟩
    rcases List.mem_append.mp hmem with hmem | hmem
    · rcases List.mem_cons.mp hmem with rfl | hmem
      · exact ⟨.head _, hinner.index_le, Nat.le_refl _, Nat.le_refl _⟩
      · exact (hinner.within note hmem).imp_left (.tail _)
    · cases List.mem_singleton.mp hmem
      exact ⟨.head _, Nat.le_refl _, Nat.le_refl _, hinner.index_le⟩
  | concat a b iha ihb =>
    obtain ⟨early, middle, late, ha, hb, rfl⟩ := h
    exact ((iha ha).mono fun g => List.mem_append_left _).append
      ((ihb hb).mono fun g => List.mem_append_right _)
  | alternate a b iha ihb =>
    rcases h with ha | hb
    · exact (iha ha).mono fun g => List.mem_append_left _
    · exact (ihb hb).mono fun g => List.mem_append_right _
  | repetition r body ih =>
    obtain ⟨count, -, -, htimes⟩ := h
    exact .times ih htimes

end Tree

namespace Trail

/-- The last ends of a group that were noted: none, or both and in order. -/
def Paired (trail : Trail) (group : Nat) : Prop :=
  trail.lookup (.opening group) = none ∧ trail.lookup (.closing group) = none ∨
    ∃ start stop, trail.lookup (.opening group) = some start ∧
      trail.lookup (.closing group) = some stop ∧ start ≤ stop

theorem mem_of_lookup {trail : Trail} {m : Mark} {i : Nat} (h : trail.lookup m = some i) :
    (m, i) ∈ trail := by
  obtain ⟨later, earlier, rfl, -⟩ := List.lookup_eq_some_iff.mp h
  exact List.mem_append_right _ (.head _)

theorem lookup_cons_of_ne {trail : Trail} {m m' : Mark} (h : m ≠ m') (i : Nat) :
    List.lookup m ((m', i) :: trail) = trail.lookup m := by
  rw [List.lookup_cons, beq_eq_false_iff_ne.mpr h]

namespace Paired

variable {trail late early : Trail} {group index : Nat}

theorem nil (group : Nat) : Paired [] group :=
  .inl ⟨rfl, rfl⟩

theorem append (hlate : Paired late group) (hearly : Paired early group) :
    Paired (late ++ early) group := by
  unfold Paired
  rw [List.lookup_append, List.lookup_append]
  rcases hlate with ⟨hopening, hclosing⟩ | ⟨start, stop, hopening, hclosing, hle⟩
  · rw [hopening, hclosing, Option.none_or, Option.none_or]
    exact hearly
  · rw [hopening, hclosing]
    exact .inr ⟨start, stop, rfl, rfl, hle⟩

/-- Around what was noted inside, a group notes its own ends. -/
theorem capture {groups : List Nat} {p q : Place} (h : Paired trail group)
    (hinside : Orderly Mark.reading groups p trail q) (index : Nat) :
    Paired ((Mark.closing index, q.index) :: trail ++ [(Mark.opening index, p.index)]) group := by
  by_cases hg : group = index
  · subst hg
    -- The end noted last is that of the group itself, and nothing noted inside comes after it.
    have hother : Mark.opening group ≠ .closing group := by simp
    obtain ⟨start, hle, hstart⟩ : ∃ start ≤ q.index,
        (trail ++ [(Mark.opening group, p.index)]).lookup (.opening group) = some start := by
      rw [List.lookup_append]
      cases hinner : trail.lookup (.opening group) with
      | none => exact ⟨p.index, hinside.index_le, by simp⟩
      | some start => exact ⟨start, (hinside.within _ (mem_of_lookup hinner)).2.2.2, rfl⟩
    refine .inr ⟨start, q.index, ?_, by simp, hle⟩
    rw [List.cons_append, lookup_cons_of_ne hother, hstart]
  · have hsame : ∀ m : Mark, m.group = group →
        ((Mark.closing index, q.index) :: trail ++ [(Mark.opening index, p.index)]).lookup m =
          trail.lookup m := by
      intro m hm
      have hne : ∀ m' : Mark, m'.group = index → m ≠ m' := by
        rintro m' hm' rfl
        exact hg (hm.symm.trans hm')
      rw [List.cons_append, lookup_cons_of_ne (hne _ rfl), List.lookup_append,
        lookup_cons_of_ne (hne _ rfl), List.lookup_nil, Option.or_none]
    unfold Paired at h ⊢
    rwa [hsame _ rfl, hsame _ rfl]

theorem times {round : Passage (Mark × Nat)} {p q : Place}
    (hround : ∀ {p trail q}, round p trail q → Paired trail group) {count : Nat}
    (h : round.times count p trail q) : Paired trail group := by
  induction count generalizing trail q with
  | zero =>
    obtain ⟨rfl, -⟩ := h
    exact nil group
  | succ count ih =>
    obtain ⟨early, middle, late, hmore, hlast, rfl⟩ := h
    exact (hround hlast).append (ih hmore)

end Paired

end Trail

theorem Tree.paired (t : Tree) {p q : Place} {trail : Trail} (h : t.passage p trail q)
    (group : Nat) : trail.Paired group := by
  induction t generalizing p trail q with
  | empty | one | assertion =>
    obtain ⟨rfl, -⟩ := h
    exact .nil group
  | literal s =>
    induction s generalizing p trail with
    | nil =>
      obtain ⟨rfl, -⟩ := h
      exact .nil group
    | cons c s ih =>
      obtain ⟨_, _, late, ⟨rfl, -⟩, hmore, rfl⟩ := h
      exact (ih hmore).append (.nil group)
  | capture index body ih =>
    obtain ⟨_, _, _, ⟨rfl, rfl⟩, ⟨inner, _, _, hbody, ⟨rfl, rfl⟩, rfl⟩, rfl⟩ := h
    exact (ih hbody).capture (body.orderly hbody) index
  | concat a b iha ihb =>
    obtain ⟨early, middle, late, ha, hb, rfl⟩ := h
    exact (ihb hb).append (iha ha)
  | alternate a b iha ihb => exact h.elim iha ihb
  | repetition r body ih =>
    obtain ⟨count, -, -, htimes⟩ := h
    exact .times ih htimes

end Descent.Regex
