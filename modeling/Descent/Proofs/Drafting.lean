import Descent.Proofs.Passage
import Descent.Proofs.Walk

/-!
# Drafts and their passages

The states drafted for an expression lead from its entry to what follows it, along the passages of
the expression and no others. What is drafted before and after them does not matter.
-/

namespace Descent.Regex

namespace State

/-- Whether a state goes on, to states below a number. -/
def Inside (count : Nat) : State → Prop
  | .accept => False
  | .one _ next | .assertion _ next | .mark _ next => next < count
  | .fork first second => first < count ∧ second < count

theorem Inside.mono {count count' : Nat} {state : State} (h : state.Inside count)
    (hle : count ≤ count') : state.Inside count' := by
  cases state with
  | accept => exact h
  | one | assertion | mark => exact Nat.lt_of_lt_of_le h hle
  | fork => exact ⟨Nat.lt_of_lt_of_le h.1 hle, Nat.lt_of_lt_of_le h.2 hle⟩

theorem inside_preferring {count more enough : Nat} (many : Bool) (hmore : more < count)
    (henough : enough < count) : (preferring many more enough).Inside count := by
  cases many
  · exact ⟨henough, hmore⟩
  · exact ⟨hmore, henough⟩

theorem mem_silent_preferring {many : Bool} {more enough next : Nat} {place : Place} :
    next ∈ (preferring many more enough).silent place ↔ next = more ∨ next = enough := by
  cases many <;> simp [preferring, silent, or_comm]

theorem noted_preferring (many : Bool) (more enough : Nat) (place : Place) :
    (preferring many more enough).noted place = [] := by
  cases many <;> rfl

theorem isSilent_preferring (many : Bool) (more enough : Nat) :
    (preferring many more enough).isSilent = true := by
  cases many <;> rfl

end State

/-- A draft that has grown: its states stay, and the new ones go on within it. -/
structure Grows (before after : Array State) : Prop where
  size_le : before.size ≤ after.size
  keeps : ∀ i < before.size, after[i]? = before[i]?
  inside : ∀ i, before.size ≤ i → ∀ state, after[i]? = some state → state.Inside after.size

namespace Grows

variable {before middle after : Array State}

theorem refl (before : Array State) : Grows before before where
  size_le := Nat.le_refl _
  keeps _ _ := rfl
  inside _ hi _ hstate :=
    absurd (Array.getElem?_eq_some_iff.mp hstate).1 (Nat.not_lt_of_le hi)

theorem trans (h : Grows before middle) (h' : Grows middle after) : Grows before after where
  size_le := Nat.le_trans h.size_le h'.size_le
  keeps i hi := (h'.keeps i (Nat.lt_of_lt_of_le hi h.size_le)).trans (h.keeps i hi)
  inside i hi state hstate := by
    by_cases hlt : i < middle.size
    · rw [h'.keeps i hlt] at hstate
      exact (h.inside i hi state hstate).mono h'.size_le
    · exact h'.inside i (Nat.le_of_not_lt hlt) state hstate

theorem push {state : State} (hstate : state.Inside (before.size + 1)) :
    Grows before (before.push state) where
  size_le := by simp
  keeps i hi := Array.getElem?_push_lt hi ▸ (Array.getElem?_eq_getElem hi).symm
  inside i hi state' hstate' := by
    rw [Array.getElem?_push] at hstate'
    rw [Array.size_push]
    split at hstate'
    · cases hstate'
      exact hstate
    · exact absurd (Array.getElem?_eq_some_iff.mp hstate').1 (Nat.not_lt_of_le hi)

end Grows

/-- Whether states are those of a draft as far as it has grown. -/
def Agrees (before after states : Array State) : Prop :=
  ∀ i, before.size ≤ i → i < after.size → states[i]? = after[i]?

namespace Agrees

variable {before middle after states : Array State}

theorem left (h : Agrees before after states) (hlater : Grows middle after) :
    Agrees before middle states := by
  intro i hi hlt
  rw [h i hi (Nat.lt_of_lt_of_le hlt hlater.size_le), hlater.keeps i hlt]

theorem right (h : Agrees before after states) (hearlier : Grows before middle) :
    Agrees middle after states :=
  fun i hi => h i (Nat.le_trans hearlier.size_le hi)

theorem last {state : State} (h : Agrees before (after.push state) states)
    (hearlier : Grows before after) : states[after.size]? = some state := by
  rw [h after.size hearlier.size_le (by simp), Array.getElem?_push_size]

end Agrees

/-- The walks of at most so many steps from one state to another. -/
def walks (states : Array State) (n s s' : Nat) : Passage (Mark × Nat) := fun p trail q =>
  ∃ m ≤ n, Walk states m s p trail s' q

section Walks

variable {states : Array State} {m n s s' : Nat} {p q : Place} {trail : Trail}

theorem walks_mono (h : walks states m s s' p trail q) (hle : m ≤ n) :
    walks states n s s' p trail q := by
  obtain ⟨k, hk, hwalk⟩ := h
  exact ⟨k, Nat.le_trans hk hle, hwalk⟩

/-- What leads along passages to a state leads on along the passages from there. -/
theorem andThen_walks {R₁ R₂ : Passage (Mark × Nat)} {later : Nat}
    (h : R₁.andThen (walks states n later s') p trail q)
    (hlater : ∀ m ≤ n, ∀ {p trail}, Walk states m later p trail s' q →
      R₂.andThen (walks states m s s') p trail q) :
    (R₁.andThen R₂).andThen (walks states n s s') p trail q := by
  rw [Passage.andThen_assoc]
  obtain ⟨early, middle, rest, h₁, ⟨m, hm, hwalk⟩, rfl⟩ := h
  have hmore := Passage.andThen_mono (hlater m hm hwalk) id fun h => walks_mono h hm
  exact ⟨early, middle, rest, h₁, hmore, rfl⟩

/-- A walk that leaves a silent state takes one of its steps. -/
theorem Walk.exists_step {state : State} (h : Walk states n s p trail s' q) (hne : s ≠ s')
    (hstate : states[s]? = some state) (hsilent : state.isSilent = true) :
    ∃ m next trail', n = m + 1 ∧ next ∈ state.silent p ∧ Walk states m next p trail' s' q ∧
      trail = trail' ++ state.noted p := by
  cases h with
  | stay => exact absurd rfl hne
  | take hone =>
    cases hstate.symm.trans hone
    cases hsilent
  | silent hstate' hnext more =>
    cases hstate.symm.trans hstate'
    exact ⟨_, _, _, rfl, hnext, more, rfl⟩

theorem Walk.choose {many : Bool} {more enough next : Nat}
    (hstate : states[s]? = some (.preferring many more enough))
    (hnext : next = more ∨ next = enough)
    (h : Walk states n next p trail s' q) : Walk states (n + 1) s p trail s' q := by
  have hstep := Walk.silent hstate (State.mem_silent_preferring.mpr hnext) h
  rwa [State.noted_preferring, List.append_nil] at hstep

theorem Walk.exists_choice {many : Bool} {more enough : Nat} (h : Walk states n s p trail s' q)
    (hne : s ≠ s') (hstate : states[s]? = some (.preferring many more enough)) :
    ∃ m next, n = m + 1 ∧ (next = more ∨ next = enough) ∧ Walk states m next p trail s' q := by
  obtain ⟨m, next, trail', rfl, hnext, hmore, rfl⟩ :=
    h.exists_step hne hstate (State.isSilent_preferring many more enough)
  rw [State.noted_preferring, List.append_nil]
  exact ⟨m, next, rfl, State.mem_silent_preferring.mp hnext, hmore⟩

end Walks

/-- From its entry on, what has been drafted leads along certain passages to what follows. -/
structure Drafted (R : Passage (Mark × Nat)) (before after : Array State) (entry next : Nat) : Prop
    extends Grows before after where
  entry_lt : entry < after.size
  complete : ∀ ⦃states⦄, Agrees before after states → ∀ ⦃p trail q⦄, R p trail q →
    ∃ n, Walk states n entry p trail next q
  sound : ∀ ⦃states⦄, Agrees before after states → ∀ ⦃n done p trail q⦄, done < before.size →
    Walk states n entry p trail done q → R.andThen (walks states n next done) p trail q

namespace Drafted

variable {R R₁ R₂ : Passage (Mark × Nat)} {before middle after : Array State}
  {entry later next more enough : Nat}

theorem stay (hnext : next < before.size) : Drafted .stay before before next next where
  toGrows := .refl before
  entry_lt := hnext
  complete := by
    rintro states - _ _ _ ⟨rfl, rfl⟩
    exact ⟨0, .stay next _⟩
  sound states _ n done p trail q _ hwalk := by
    rw [Passage.stay_andThen]
    exact ⟨n, Nat.le_refl n, hwalk⟩

theorem seq (first : Drafted R₁ middle after entry later)
    (second : Drafted R₂ before middle later next) :
    Drafted (R₁.andThen R₂) before after entry next where
  toGrows := second.toGrows.trans first.toGrows
  entry_lt := first.entry_lt
  complete := by
    rintro states hstates p _ q ⟨early, place, late, h₁, h₂, rfl⟩
    obtain ⟨m, hfirst⟩ := first.complete (hstates.right second.toGrows) h₁
    obtain ⟨n, hsecond⟩ := second.complete (hstates.left first.toGrows) h₂
    exact ⟨m + n, hfirst.append hsecond⟩
  sound states hstates n done p trail q hdone hwalk := by
    have hfirst := first.sound (hstates.right second.toGrows)
      (Nat.lt_of_lt_of_le hdone second.size_le) hwalk
    exact andThen_walks hfirst fun m _ _ _ hmore =>
      second.sound (hstates.left first.toGrows) hdone hmore

/-- A state that takes a character goes on behind it. -/
theorem one {members : CharClass} (hnext : next < before.size) :
    Drafted (.take members) before (before.push (.one members next)) before.size next where
  toGrows := .push (Nat.lt_succ_of_lt hnext)
  entry_lt := by simp
  complete := by
    rintro states hstates p _ _ ⟨rfl, c, rest, hrest, hmember, rfl⟩
    exact ⟨1, .take (hstates.last (.refl before)) hrest hmember (.stay next _)⟩
  sound states hstates n done p trail q hdone hwalk := by
    have hstate := hstates.last (.refl before)
    cases hwalk with
    | stay => exact absurd hdone (Nat.lt_irrefl _)
    | take hone hrest hmember hmore =>
      cases hstate.symm.trans hone
      exact ⟨[], _, trail, ⟨rfl, _, _, hrest, hmember, rfl⟩, ⟨_, Nat.le_succ _, hmore⟩,
        (List.append_nil trail).symm⟩
    | silent hone hmem =>
      cases hstate.symm.trans hone
      cases hmem

/-- A silent state with one way on goes on where it is. -/
theorem silent {state : State} (hstate : state.Inside (before.size + 1))
    (hsilent : state.isSilent = true)
    (hpassage : ∀ p trail q, R p trail q ↔ trail = state.noted p ∧ q = p ∧ next ∈ state.silent p)
    (honly : ∀ p, ∀ other ∈ state.silent p, other = next) :
    Drafted R before (before.push state) before.size next where
  toGrows := .push hstate
  entry_lt := by simp
  complete := by
    intro states hstates p trail q h
    obtain ⟨rfl, rfl, hnext⟩ := (hpassage p trail q).mp h
    exact ⟨1, .silent (hstates.last (.refl before)) hnext (.stay next _)⟩
  sound states hstates n done p trail q hdone hwalk := by
    obtain ⟨m, other, trail', rfl, hmem, hmore, rfl⟩ :=
      hwalk.exists_step (Nat.ne_of_gt hdone) (hstates.last (.refl before)) hsilent
    cases honly p other hmem
    exact ⟨_, p, trail', (hpassage p _ p).mpr ⟨rfl, rfl, hmem⟩, ⟨m, Nat.le_succ m, hmore⟩, rfl⟩

theorem assertion {a : Assertion} (hnext : next < before.size) :
    Drafted (.test a) before (before.push (.assertion a next)) before.size next := by
  refine silent (Nat.lt_succ_of_lt hnext) rfl ?_ ?_
  · intro p trail q
    by_cases h : p.satisfies a = true <;> simp [Passage.test, State.noted, State.silent, h]
  · intro p other hmem
    by_cases h : p.satisfies a = true
    · simpa [State.silent, h] using hmem
    · simp [State.silent, h] at hmem

theorem mark {m : Mark} (hnext : next < before.size) :
    Drafted (.mark m) before (before.push (.mark m next)) before.size next := by
  refine silent (Nat.lt_succ_of_lt hnext) rfl ?_ fun _ _ => List.mem_singleton.mp
  intro p trail q
  simp [Passage.mark, State.noted, State.silent]

/-- A fork leads along the passages behind either of its ways. -/
theorem fork (many : Bool) (first : Drafted R₁ before middle more next)
    (second : Drafted R₂ middle after enough next) :
    Drafted (R₁.either R₂) before (after.push (.preferring many more enough)) after.size next := by
  have hgrows := first.toGrows.trans second.toGrows
  have hpush : Grows after (after.push (.preferring many more enough)) := by
    have hmore := Nat.lt_of_lt_of_le first.entry_lt second.size_le
    exact .push (State.inside_preferring many (Nat.lt_succ_of_lt hmore)
      (Nat.lt_succ_of_lt second.entry_lt))
  refine ⟨hgrows.trans hpush, by simp, ?_, ?_⟩
  · intro states hstates p trail q h
    have hboth := hstates.left hpush
    rcases h with h | h
    · obtain ⟨n, hwalk⟩ := first.complete (hboth.left second.toGrows) h
      exact ⟨n + 1, hwalk.choose (hstates.last hgrows) (.inl rfl)⟩
    · obtain ⟨n, hwalk⟩ := second.complete (hboth.right first.toGrows) h
      exact ⟨n + 1, hwalk.choose (hstates.last hgrows) (.inr rfl)⟩
  · intro states hstates n done p trail q hdone hwalk
    have hboth := hstates.left hpush
    have hne : after.size ≠ done := Nat.ne_of_gt (Nat.lt_of_lt_of_le hdone hgrows.size_le)
    obtain ⟨m, other, rfl, hother, hmore⟩ := hwalk.exists_choice hne (hstates.last hgrows)
    rcases hother with rfl | rfl
    · have h := first.sound (hboth.left second.toGrows) hdone hmore
      exact Passage.andThen_mono h .inl fun h => walks_mono h (Nat.le_succ m)
    · have h := second.sound (hboth.right first.toGrows)
        (Nat.lt_of_lt_of_le hdone first.size_le) hmore
      exact Passage.andThen_mono h .inr fun h => walks_mono h (Nat.le_succ m)

theorem size_lt_of_push {state : State} (h : Drafted R (before.push state) middle entry next) :
    before.size < middle.size := by
  have hle := h.size_le
  rwa [Array.size_push] at hle

theorem grows_loop (many : Bool) (hnext : next < before.size)
    (h : Drafted R (before.push (.fork next next)) middle entry before.size) :
    Grows before (middle.setIfInBounds before.size (.preferring many entry next)) := by
  have hlt := h.size_lt_of_push
  refine ⟨?_, ?_, ?_⟩
  · rw [Array.size_setIfInBounds]
    exact Nat.le_of_lt hlt
  · intro i hi
    have hi' : i < (before.push (.fork next next)).size := by
      rw [Array.size_push]
      exact Nat.lt_succ_of_lt hi
    rw [Array.getElem?_setIfInBounds_ne (Nat.ne_of_gt hi), h.keeps i hi',
      Array.getElem?_push_lt hi, Array.getElem?_eq_getElem hi]
  · intro i hi state hstate
    rw [Array.size_setIfInBounds]
    by_cases hback : before.size = i
    · subst hback
      rw [Array.getElem?_setIfInBounds_self_of_lt hlt] at hstate
      cases hstate
      exact State.inside_preferring many h.entry_lt (Nat.lt_trans hnext hlt)
    · rw [Array.getElem?_setIfInBounds_ne hback] at hstate
      exact h.inside i (by rw [Array.size_push]; omega) state hstate

theorem agrees_loop {many : Bool} {states : Array State}
    (h : Drafted R (before.push (.fork next next)) middle entry before.size)
    (hstates : Agrees before (middle.setIfInBounds before.size (.preferring many entry next))
      states) :
    states[before.size]? = some (.preferring many entry next) ∧
      Agrees (before.push (.fork next next)) middle states := by
  have hlt := h.size_lt_of_push
  constructor
  · rw [hstates before.size (Nat.le_refl _) (by rw [Array.size_setIfInBounds]; exact hlt),
      Array.getElem?_setIfInBounds_self_of_lt hlt]
  · intro i hi hi'
    rw [Array.size_push] at hi
    rw [hstates i (Nat.le_of_succ_le hi) (by rw [Array.size_setIfInBounds]; exact hi'),
      Array.getElem?_setIfInBounds_ne (Nat.ne_of_lt hi)]

/-- From the state in which its rounds end, a loop goes on with more rounds or with none. -/
theorem loop_back (many : Bool) (hnext : next < before.size)
    (h : Drafted R (before.push (.fork next next)) middle entry before.size) :
    Drafted (R.rounds 0 none) before
      (middle.setIfInBounds before.size (.preferring many entry next)) before.size next := by
  refine ⟨grows_loop many hnext h, ?_, ?_, ?_⟩
  · rw [Array.size_setIfInBounds]
    exact h.size_lt_of_push
  · rintro states hstates p trail q ⟨count, -, -, htimes⟩
    obtain ⟨hback, hbody⟩ := h.agrees_loop hstates
    induction count generalizing p trail with
    | zero =>
      obtain ⟨rfl, rfl⟩ := htimes
      exact ⟨1, (Walk.stay next q).choose hback (.inr rfl)⟩
    | succ count ih =>
      rw [Passage.times_succ] at htimes
      obtain ⟨early, middle, late, hround, hmore, rfl⟩ := htimes
      obtain ⟨m, hround⟩ := h.complete hbody hround
      obtain ⟨n, hmore⟩ := ih hmore
      exact ⟨m + n + 1, (hround.append hmore).choose hback (.inl rfl)⟩
  · intro states hstates n done p trail q hdone hwalk
    obtain ⟨hback, hbody⟩ := h.agrees_loop hstates
    -- Each round begins with a step of its own, even if it takes no characters.
    induction n using Nat.strongRecOn generalizing p trail with
    | ind n ih =>
      obtain ⟨m, other, rfl, hother, hmore⟩ := hwalk.exists_choice (Nat.ne_of_gt hdone) hback
      rw [← Passage.rounds_none]
      rcases hother with rfl | rfl
      · have hround := h.sound hbody (Nat.lt_of_lt_of_le hdone (by simp)) hmore
        have hrounds := andThen_walks hround fun k hk {p trail} hagain =>
          ih k (Nat.lt_succ_of_le hk) hagain
        exact Passage.andThen_mono hrounds .inl fun h => walks_mono h (Nat.le_succ m)
      · exact ⟨[], p, trail, .inr ⟨rfl, rfl⟩, ⟨m, Nat.le_succ m, hmore⟩,
          (List.append_nil trail).symm⟩

/-- From its entry, a loop leads along one round and then more of them or none. -/
theorem loop_entry (many : Bool) (hnext : next < before.size)
    (h : Drafted R (before.push (.fork next next)) middle entry before.size) :
    Drafted (R.rounds 1 none) before
      (middle.setIfInBounds before.size (.preferring many entry next)) entry next := by
  have hloop := loop_back many hnext h
  rw [← Passage.rounds_one_none]
  refine ⟨grows_loop many hnext h, ?_, ?_, ?_⟩
  · rw [Array.size_setIfInBounds]
    exact h.entry_lt
  · rintro states hstates p _ q ⟨early, middle, late, hround, hmore, rfl⟩
    obtain ⟨m, hround⟩ := h.complete (h.agrees_loop hstates).2 hround
    obtain ⟨n, hmore⟩ := hloop.complete hstates hmore
    exact ⟨m + n, hround.append hmore⟩
  · intro states hstates n done p trail q hdone hwalk
    have hround := h.sound (h.agrees_loop hstates).2 (Nat.lt_of_lt_of_le hdone (by simp)) hwalk
    exact andThen_walks hround fun m _ _ _ hmore => hloop.sound hstates hdone hmore

end Drafted

/-- Wherever it is made, a draft leads along certain passages to what follows. -/
def Drafts (R : Passage (Mark × Nat)) (draft : Nat → Draft Nat) : Prop :=
  ∀ ⦃before : Array State⦄ ⦃next : Nat⦄, next < before.size →
    Drafted R before ((draft next).run before).2 ((draft next).run before).1 next

namespace Drafts

variable {R R₁ R₂ : Passage (Mark × Nat)} {first second body : Nat → Draft Nat}

theorem stay : Drafts .stay fun next => pure next :=
  fun _ _ hnext => .stay hnext

theorem seq (h₁ : Drafts R₁ first) (h₂ : Drafts R₂ second) :
    Drafts (R₁.andThen R₂) (fun next => do first (← second next)) :=
  fun _ _ hnext => (h₁ (h₂ hnext).entry_lt).seq (h₂ hnext)

theorem one (members : CharClass) :
    Drafts (.take members) fun next => Draft.add (.one members next) :=
  fun _ _ hnext => .one hnext

theorem assertion (a : Assertion) : Drafts (.test a) fun next => Draft.add (.assertion a next) :=
  fun _ _ hnext => .assertion hnext

theorem mark (m : Mark) : Drafts (.mark m) fun next => Draft.add (.mark m next) :=
  fun _ _ hnext => .mark hnext

theorem alternate (h₁ : Drafts R₁ first) (h₂ : Drafts R₂ second) :
    Drafts (R₁.either R₂) (fun next => do
      let first ← first next
      let second ← second next
      Draft.add (.fork first second)) :=
  fun _ _ hnext =>
    .fork true (h₁ hnext) (h₂ (Nat.lt_of_lt_of_le hnext (h₁ hnext).size_le))

theorem literal (s : List Char) :
    Drafts (s.foldr (fun c later => (Passage.take (.single c)).andThen later) .stay) fun next =>
      s.foldrM (fun c next => Draft.add (.one (.single c) next)) next := by
  induction s with
  | nil => exact stay
  | cons c s ih =>
    simp only [List.foldrM_cons]
    exact (one (.single c)).seq ih

/-- Copies are drafted from the last one to the first. -/
theorem copies (h : Drafts R body) (count : Nat) :
    Drafts (R.times count) (Draft.copies body count) := by
  induction count with
  | zero => exact stay
  | succ count ih => exact ih.seq h

/-- Each further copy may be left out, together with those behind it. -/
theorem optionals (h : Drafts R body) (many : Bool) (count : Nat) :
    Drafts (R.rounds 0 (some count)) fun next => Draft.optionals many body next count := by
  have hmore : ∀ count most {before middle : Array State} {later next : Nat}, next < before.size →
      Drafted (R.rounds 0 (some most)) before middle later next →
      Drafted (R.rounds 0 (some (most + count))) before
        ((Draft.copies (fun later => do Draft.add (.preferring many (← body later) next)) count
          later).run middle).2
        ((Draft.copies (fun later => do Draft.add (.preferring many (← body later) next)) count
          later).run middle).1 next := by
    intro count
    induction count with
    | zero => exact fun most _ _ _ _ _ hlater => hlater
    | succ count ih =>
      intro most before middle later next hnext hlater
      have hround := (h hlater.entry_lt).seq hlater
      have hnext' := Nat.lt_of_lt_of_le hnext hround.size_le
      have hfork := hround.fork many (.stay hnext')
      rw [Passage.rounds_some_succ] at hfork
      have hcopies := ih (most + 1) hnext hfork
      rw [Nat.add_right_comm] at hcopies
      exact hcopies
  intro before next hnext
  have hnone := Drafted.stay hnext
  rw [← Passage.rounds_some_zero R] at hnone
  have hcopies := hmore count 0 hnext hnone
  rwa [Nat.zero_add] at hcopies

theorem loop (h : Drafts R body) (many : Bool) {before : Array State} {next : Nat}
    (hnext : next < before.size) :
    Drafted (R.rounds 1 none) before ((Draft.loop many body next).run before).2
        ((Draft.loop many body next).run before).1.1 next ∧
      Drafted (R.rounds 0 none) before ((Draft.loop many body next).run before).2
        ((Draft.loop many body next).run before).1.2 next := by
  have hback : before.size < (before.push (.fork next next)).size := by simp
  have hround := h hback
  exact ⟨.loop_entry many hnext hround, .loop_back many hnext hround⟩

theorem repetition (h : Drafts R body) (r : Repetition) (consumes : Bool) :
    Drafts (R.repeated r) (Draft.repetition r consumes body) := by
  intro before next hnext
  obtain ⟨least, most, many⟩ := r
  cases most with
  | some most =>
    have hmax : least + (most - least) = max least most := by omega
    have hall := (h.copies least).seq (h.optionals many (most - least))
    rw [Passage.times_andThen_rounds, Nat.add_zero, Option.map_some, hmax] at hall
    exact hall hnext
  | none =>
    obtain ⟨hentry, hback⟩ := h.loop many hnext
    cases least with
    | succ least =>
      have hall := (h.copies least hentry.entry_lt).seq hentry
      rw [Passage.times_andThen_rounds] at hall
      exact hall
    | zero =>
      cases consumes with
      | true => exact hback
      | false =>
        -- Where a round may take nothing, the loop is entered by a state of its own.
        have hfork := hentry.fork many (.stay (Nat.lt_of_lt_of_le hnext hentry.size_le))
        rw [← Passage.rounds_one_none, Passage.rounds_none] at hfork
        exact hfork

theorem ofTree (tree : Tree) : Drafts tree.passage (Draft.ofTree tree) := by
  induction tree with
  | empty => exact stay
  | literal s => exact literal s
  | one c => exact one c
  | assertion a => exact assertion a
  | capture index body ih => exact (mark (.opening index)).seq (ih.seq (mark (.closing index)))
  | concat a b iha ihb => exact iha.seq ihb
  | alternate a b iha ihb => exact iha.alternate ihb
  | repetition r body ih => exact ih.repetition r body.consumes

end Drafts

namespace Program

/-- What is drafted for a tree leads from its start to the state in which a match is accepted. -/
theorem drafted_ofTree (tree : Tree) :
    Drafted tree.passage #[.accept] (ofTree tree).states (ofTree tree).start 0 := by
  have haccept : 0 < #[State.accept].size := by simp
  exact Drafts.ofTree tree haccept

theorem accept_or_inside (tree : Tree) {i : Nat} {state : State}
    (h : (ofTree tree).states[i]? = some state) :
    i = 0 ∧ state = .accept ∨ 0 < i ∧ state.Inside (ofTree tree).states.size := by
  cases i with
  | zero =>
    rw [(drafted_ofTree tree).keeps 0 (by simp)] at h
    cases h
    exact .inl ⟨rfl, rfl⟩
  | succ i => exact .inr ⟨Nat.succ_pos i, (drafted_ofTree tree).inside _ (by simp) state h⟩

theorem states_ofTree_eq_accept_iff (tree : Tree) {i : Nat} :
    (ofTree tree).states[i]? = some .accept ↔ i = 0 := by
  constructor
  · intro h
    rcases accept_or_inside tree h with ⟨hzero, -⟩ | ⟨-, hnone⟩
    · exact hzero
    · exact hnone.elim
  · rintro rfl
    rw [(drafted_ofTree tree).keeps 0 (by simp)]
    rfl

/-- The walks that are accepted are the passages of the tree. -/
theorem exists_accepts_iff (tree : Tree) {p q : Place} {trail : Trail} :
    (∃ n, Accepts (ofTree tree).states n (ofTree tree).start p trail q) ↔
      tree.passage p trail q := by
  have hself : Agrees #[.accept] (ofTree tree).states (ofTree tree).states := fun _ _ _ => rfl
  constructor
  · rintro ⟨n, s', hwalk, haccept⟩
    cases (states_ofTree_eq_accept_iff tree).mp haccept
    obtain ⟨early, middle, late, hpassage, ⟨m, -, hmore⟩, rfl⟩ :=
      (drafted_ofTree tree).sound hself (by simp) hwalk
    cases hmore with
    | stay => exact hpassage
    | take hstate =>
      cases haccept.symm.trans hstate
    | silent hstate hnext =>
      cases haccept.symm.trans hstate
      cases hnext
  · intro h
    obtain ⟨n, hwalk⟩ := (drafted_ofTree tree).complete hself h
    exact ⟨n, 0, hwalk, (states_ofTree_eq_accept_iff tree).mpr rfl⟩

end Program

end Descent.Regex
