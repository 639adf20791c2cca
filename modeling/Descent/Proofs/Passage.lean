import Descent.Regex.Matcher
import Descent.Regex.Ways

/-!
# What expressions match

A passage relates the place where a match begins, what is noted on the way and the place where it
ends. Each constructor of expressions is an operation on passages, which says nothing about the
order of preference; so is each constructor of trees. An expression notes a group when it is closed,
a tree notes both of its ends.
-/

namespace Descent.Regex

/-- From where to where matches go, and what they note on the way, the last note first. -/
abbrev Passage (Note : Type) := Place → List Note → Place → Prop

namespace Passage

variable {Note : Type}

def stay : Passage Note := fun p trail q =>
  trail = [] ∧ q = p

def take (members : CharClass) : Passage Note := fun p trail q =>
  trail = [] ∧ ∃ c rest, p.rest = c :: rest ∧ members.contains c = true ∧ q = p.advance c rest

def test (a : Assertion) : Passage Note := fun p trail q =>
  trail = [] ∧ p.satisfies a = true ∧ q = p

def mark (m : Mark) : Passage (Mark × Nat) := fun p trail q =>
  trail = [(m, p.index)] ∧ q = p

def andThen (first second : Passage Note) : Passage Note := fun p trail q =>
  ∃ early middle late, first p early middle ∧ second middle late q ∧ trail = late ++ early

def either (first second : Passage Note) : Passage Note := fun p trail q =>
  first p trail q ∨ second p trail q

/-- So many rounds, one after the other. -/
def times (round : Passage Note) : Nat → Passage Note
  | 0 => stay
  | count + 1 => (round.times count).andThen round

/-- At least so many rounds, and at most so many if there is a bound. -/
def rounds (round : Passage Note) (least : Nat) (most : Option Nat) : Passage Note :=
  fun p trail q =>
    ∃ count, least ≤ count ∧ (∀ bound ∈ most, count ≤ bound) ∧ round.times count p trail q

/-- The rounds of a repetition. An upper bound below the lower one does not count. -/
def repeated (round : Passage Note) (r : Repetition) : Passage Note :=
  round.rounds r.least (r.most.map (max r.least))

/-- A group notes where it begins and where it ends. -/
def group (index : Nat) (body : Passage (Mark × Nat)) : Passage (Mark × Nat) :=
  (mark (.opening index)).andThen (body.andThen (mark (.closing index)))

/-- A group notes what it has covered. -/
def capture (index : Nat) (body : Passage (Nat × Span)) : Passage (Nat × Span) :=
  fun p trail q =>
    ∃ inner, body p inner q ∧ trail = (index, { start := p.index, stop := q.index }) :: inner

section Laws

variable {first second third round : Passage Note} {p q : Place} {trail : List Note}

theorem stay_andThen : stay.andThen second = second := by
  funext p trail q
  apply propext
  constructor
  · rintro ⟨_, _, late, ⟨rfl, rfl⟩, h, rfl⟩
    rwa [List.append_nil]
  · intro h
    exact ⟨[], p, trail, ⟨rfl, rfl⟩, h, (List.append_nil trail).symm⟩

theorem andThen_stay : first.andThen stay = first := by
  funext p trail q
  apply propext
  constructor
  · rintro ⟨early, _, _, h, ⟨rfl, rfl⟩, rfl⟩
    exact h
  · intro h
    exact ⟨trail, q, [], h, ⟨rfl, rfl⟩, rfl⟩

theorem andThen_assoc :
    (first.andThen second).andThen third = first.andThen (second.andThen third) := by
  funext p trail q
  apply propext
  constructor
  · rintro ⟨_, middle', late, ⟨early, middle, later, h₁, h₂, rfl⟩, h₃, rfl⟩
    exact ⟨early, middle, late ++ later, h₁, ⟨later, middle', late, h₂, h₃, rfl⟩,
      (List.append_assoc late later early).symm⟩
  · rintro ⟨early, middle, _, h₁, ⟨later, middle', late, h₂, h₃, rfl⟩, rfl⟩
    exact ⟨later ++ early, middle', late, ⟨early, middle, later, h₁, h₂, rfl⟩, h₃,
      List.append_assoc late later early⟩

theorem times_add (round : Passage Note) (m n : Nat) :
    round.times (m + n) = (round.times m).andThen (round.times n) := by
  induction n with
  | zero => exact andThen_stay.symm
  | succ n ih =>
    rw [← Nat.add_assoc, times, ih, andThen_assoc]
    rfl

theorem times_one (round : Passage Note) : round.times 1 = round :=
  stay_andThen

theorem times_succ (round : Passage Note) (count : Nat) :
    round.times (count + 1) = round.andThen (round.times count) := by
  rw [Nat.add_comm, times_add, times_one]

theorem rounds_none (round : Passage Note) :
    (round.andThen (round.rounds 0 none)).either stay = round.rounds 0 none := by
  funext p trail q
  apply propext
  constructor
  · rintro (⟨early, middle, late, hfirst, ⟨count, -, -, hmore⟩, rfl⟩ | hstay)
    · refine ⟨count + 1, Nat.zero_le _, by simp, ?_⟩
      rw [times_succ]
      exact ⟨early, middle, late, hfirst, hmore, rfl⟩
    · exact ⟨0, Nat.le_refl 0, by simp, hstay⟩
  · rintro ⟨count, -, -, htimes⟩
    cases count with
    | zero => exact .inr htimes
    | succ count =>
      rw [times_succ] at htimes
      obtain ⟨early, middle, late, hfirst, hmore, rfl⟩ := htimes
      exact .inl ⟨early, middle, late, hfirst, ⟨count, Nat.zero_le _, by simp, hmore⟩, rfl⟩

theorem rounds_some_succ (round : Passage Note) (count : Nat) :
    (round.andThen (round.rounds 0 (some count))).either stay =
      round.rounds 0 (some (count + 1)) := by
  funext p trail q
  apply propext
  constructor
  · rintro (⟨early, middle, late, hfirst, ⟨more, -, hmost, hmore⟩, rfl⟩ | hstay)
    · refine ⟨more + 1, Nat.zero_le _, ?_, ?_⟩
      · rintro _ ⟨⟩
        exact Nat.succ_le_succ (hmost count rfl)
      · rw [times_succ]
        exact ⟨early, middle, late, hfirst, hmore, rfl⟩
    · exact ⟨0, Nat.le_refl 0, by simp, hstay⟩
  · rintro ⟨more, -, hmost, htimes⟩
    cases more with
    | zero => exact .inr htimes
    | succ more =>
      rw [times_succ] at htimes
      obtain ⟨early, middle, late, hfirst, hmore, rfl⟩ := htimes
      refine .inl ⟨early, middle, late, hfirst, ⟨more, Nat.zero_le _, ?_, hmore⟩, rfl⟩
      rintro _ ⟨⟩
      exact Nat.le_of_succ_le_succ (hmost _ rfl)

theorem rounds_some_zero (round : Passage Note) : round.rounds 0 (some 0) = stay := by
  funext p trail q
  apply propext
  constructor
  · rintro ⟨count, -, hmost, htimes⟩
    cases Nat.le_zero.mp (hmost 0 rfl)
    exact htimes
  · intro h
    exact ⟨0, Nat.le_refl 0, by simp, h⟩

/-- Required rounds come before those that may follow. -/
theorem times_andThen_rounds (round : Passage Note) (required least : Nat) (most : Option Nat) :
    (round.times required).andThen (round.rounds least most) =
      round.rounds (required + least) (most.map (required + ·)) := by
  funext p trail q
  apply propext
  constructor
  · rintro ⟨early, middle, late, hfirst, ⟨count, hleast, hmost, hmore⟩, rfl⟩
    refine ⟨required + count, Nat.add_le_add_left hleast required, ?_, ?_⟩
    · intro _ hshifted
      obtain ⟨bound, hbound, rfl⟩ := Option.map_eq_some_iff.mp hshifted
      exact Nat.add_le_add_left (hmost bound hbound) required
    · rw [times_add]
      exact ⟨early, middle, late, hfirst, hmore, rfl⟩
  · rintro ⟨count, hleast, hmost, htimes⟩
    obtain ⟨count, rfl⟩ := Nat.exists_eq_add_of_le (Nat.le_of_add_right_le hleast)
    rw [times_add] at htimes
    obtain ⟨early, middle, late, hfirst, hmore, rfl⟩ := htimes
    refine ⟨early, middle, late, hfirst, ⟨count, Nat.le_of_add_le_add_left hleast, ?_, hmore⟩, rfl⟩
    intro bound hbound
    exact Nat.le_of_add_le_add_left (hmost _ (Option.map_eq_some_iff.mpr ⟨bound, hbound, rfl⟩))

theorem rounds_one_none (round : Passage Note) :
    round.andThen (round.rounds 0 none) = round.rounds 1 none := by
  have h := times_andThen_rounds round 1 0 none
  rwa [times_one] at h

theorem andThen_mono {first' second' : Passage Note} (h : first.andThen second p trail q)
    (hfirst : ∀ {p trail q}, first p trail q → first' p trail q)
    (hsecond : ∀ {p trail q}, second p trail q → second' p trail q) :
    first'.andThen second' p trail q := by
  obtain ⟨early, middle, late, h₁, h₂, rfl⟩ := h
  exact ⟨early, middle, late, hfirst h₁, hsecond h₂, rfl⟩

end Laws

/-- Whether a passage comes from one place to another, whatever it notes. -/
def Leads (R : Passage Note) (p q : Place) : Prop :=
  ∃ trail, R p trail q

section Leads

variable {first second round : Passage Note} {p q : Place}

@[simp]
theorem leads_stay : (stay : Passage Note).Leads p q ↔ q = p := by
  simp [Leads, stay]

@[simp]
theorem leads_take {members : CharClass} :
    (take members : Passage Note).Leads p q ↔
      ∃ c rest, p.rest = c :: rest ∧ members.contains c = true ∧ q = p.advance c rest := by
  simp [Leads, take]

@[simp]
theorem leads_test {a : Assertion} :
    (test a : Passage Note).Leads p q ↔ p.satisfies a = true ∧ q = p := by
  simp [Leads, test]

@[simp]
theorem leads_andThen :
    (first.andThen second).Leads p q ↔ ∃ middle, first.Leads p middle ∧ second.Leads middle q := by
  constructor
  · rintro ⟨_, early, middle, late, hfirst, hsecond, -⟩
    exact ⟨middle, ⟨early, hfirst⟩, ⟨late, hsecond⟩⟩
  · rintro ⟨middle, ⟨early, hfirst⟩, ⟨late, hsecond⟩⟩
    exact ⟨late ++ early, early, middle, late, hfirst, hsecond, rfl⟩

@[simp]
theorem leads_either :
    (first.either second).Leads p q ↔ first.Leads p q ∨ second.Leads p q := by
  simp [Leads, either, exists_or]

@[simp]
theorem leads_mark {m : Mark} : (mark m).Leads p q ↔ q = p := by
  simp [Leads, mark]

@[simp]
theorem leads_group {index : Nat} {body : Passage (Mark × Nat)} :
    (group index body).Leads p q ↔ body.Leads p q := by
  simp [group]

@[simp]
theorem leads_capture {index : Nat} {body : Passage (Nat × Span)} :
    (capture index body).Leads p q ↔ body.Leads p q := by
  constructor
  · rintro ⟨-, trail, h, -⟩
    exact ⟨trail, h⟩
  · rintro ⟨trail, h⟩
    exact ⟨_, trail, h, rfl⟩

@[simp]
theorem leads_times_zero : (round.times 0).Leads p q ↔ q = p :=
  leads_stay

theorem leads_times_succ {count : Nat} :
    (round.times (count + 1)).Leads p q ↔
      ∃ middle, round.Leads p middle ∧ (round.times count).Leads middle q := by
  rw [times_succ, leads_andThen]

theorem leads_repeated {r : Repetition} :
    (round.repeated r).Leads p q ↔ ∃ count, r.least ≤ count ∧
      (∀ bound ∈ r.most, count ≤ max r.least bound) ∧ (round.times count).Leads p q := by
  constructor
  · rintro ⟨trail, count, hleast, hmost, htimes⟩
    have hbounded : ∀ bound ∈ r.most, count ≤ max r.least bound :=
      fun bound hbound => hmost _ (Option.mem_map_of_mem _ hbound)
    exact ⟨count, hleast, hbounded, trail, htimes⟩
  · rintro ⟨count, hleast, hmost, trail, htimes⟩
    refine ⟨trail, count, hleast, ?_, htimes⟩
    intro _ hshifted
    obtain ⟨bound, hbound, rfl⟩ := Option.map_eq_some_iff.mp hshifted
    exact hmost bound hbound

theorem leads_times_congr {Note' : Type} {round' : Passage Note'}
    (h : ∀ p q, round.Leads p q ↔ round'.Leads p q) (count : Nat) :
    (round.times count).Leads p q ↔ (round'.times count).Leads p q := by
  induction count generalizing p with
  | zero => rw [leads_times_zero, leads_times_zero]
  | succ count ih => simp only [leads_times_succ, h, ih]

theorem leads_repeated_of_eq {r : Repetition} (h : r.most = some r.least) :
    (round.repeated r).Leads p q ↔ (round.times r.least).Leads p q := by
  rw [leads_repeated, h]
  constructor
  · rintro ⟨count, hleast, hmost, htimes⟩
    have hle := hmost r.least rfl
    rw [Nat.max_self] at hle
    rwa [Nat.le_antisymm hle hleast] at htimes
  · intro htimes
    exact ⟨r.least, Nat.le_refl _, fun _ _ => Nat.le_max_left _ _, htimes⟩

/-- A repetition of something that takes nothing goes one round like any number of them. -/
theorem leads_repeated_of_still {r : Repetition} (hstill : ∀ p q, round.Leads p q → q = p) :
    (round.repeated r).Leads p q ↔ q = p ∧ (r.least = 0 ∨ round.Leads p p) := by
  have htimes : ∀ count, (round.times count).Leads p q ↔ q = p ∧ (count = 0 ∨ round.Leads p p) := by
    intro count
    induction count with
    | zero => simp
    | succ count ih =>
      rw [leads_times_succ]
      constructor
      · rintro ⟨middle, hround, hmore⟩
        obtain rfl := hstill p middle hround
        exact ⟨(ih.mp hmore).1, .inr hround⟩
      · rintro ⟨rfl, hround⟩
        exact ⟨q, hround.resolve_left (Nat.succ_ne_zero count),
          ih.mpr ⟨rfl, .inr (hround.resolve_left (Nat.succ_ne_zero count))⟩⟩
  simp only [leads_repeated, htimes]
  constructor
  · rintro ⟨count, hleast, -, rfl, hround⟩
    refine ⟨rfl, hround.imp_left ?_⟩
    rintro rfl
    exact Nat.le_zero.mp hleast
  · rintro ⟨rfl, hround⟩
    exact ⟨r.least, Nat.le_refl _, fun _ _ => Nat.le_max_left _ _, rfl, hround⟩

end Leads

/-- Whether a match cannot come back to an earlier place. -/
def IsForward (R : Passage Note) : Prop :=
  ∀ ⦃p q⦄, R.Leads p q → q = p ∨ q.rest.length < p.rest.length

section Forward

variable {first second round : Passage Note}

theorem isForward_stay : (stay : Passage Note).IsForward := by
  rintro p q h
  exact .inl (leads_stay.mp h)

theorem isForward_take (members : CharClass) : (take members : Passage Note).IsForward := by
  intro p q h
  obtain ⟨c, rest, hrest, -, rfl⟩ := leads_take.mp h
  exact .inr (Place.length_advance_lt hrest)

theorem isForward_test (a : Assertion) : (test a : Passage Note).IsForward :=
  fun _ _ h => .inl (leads_test.mp h).2

theorem IsForward.andThen (h : first.IsForward) (h' : second.IsForward) :
    (first.andThen second).IsForward := by
  intro p q hleads
  obtain ⟨middle, hfirst, hsecond⟩ := leads_andThen.mp hleads
  rcases h hfirst with rfl | hlt
  · exact h' hsecond
  · rcases h' hsecond with rfl | hlt'
    · exact .inr hlt
    · exact .inr (Nat.lt_trans hlt' hlt)

theorem IsForward.either (h : first.IsForward) (h' : second.IsForward) :
    (first.either second).IsForward :=
  fun _ _ hleads => (leads_either.mp hleads).elim (@h _ _) (@h' _ _)

theorem IsForward.times (h : round.IsForward) (count : Nat) : (round.times count).IsForward := by
  induction count with
  | zero => exact isForward_stay
  | succ count ih => exact ih.andThen h

theorem IsForward.rounds (h : round.IsForward) (least : Nat) (most : Option Nat) :
    (round.rounds least most).IsForward := by
  rintro p q ⟨trail, count, -, -, htimes⟩
  exact h.times count ⟨trail, htimes⟩

theorem IsForward.repeated (h : round.IsForward) (r : Repetition) : (round.repeated r).IsForward :=
  h.rounds _ _

end Forward

end Passage

def Expr.passage : Expr → Passage (Nat × Span)
  | empty => .stay
  | one c => .take c
  | assertion a => .test a
  | group body => body.passage
  | capture index body => .capture index body.passage
  | concat a b => a.passage.andThen b.passage
  | alternate a b => a.passage.either b.passage
  | repetition r body => body.passage.repeated r

def Tree.passage : Tree → Passage (Mark × Nat)
  | empty => .stay
  | literal s => s.foldr (fun c later => (Passage.take (.single c)).andThen later) .stay
  | one c => .take c
  | assertion a => .test a
  | capture index body => .group index body.passage
  | concat a b => a.passage.andThen b.passage
  | alternate a b => a.passage.either b.passage
  | repetition r body => body.passage.repeated r

end Descent.Regex
