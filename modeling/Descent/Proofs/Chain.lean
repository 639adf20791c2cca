import Descent.Bounds
import Descent.Outcome

/-!
# Chains of matches

Matches in a row, each from where the one before has ended, and what a repetition makes of them: it
goes on until it has as many as it may have or until a round does not match, and never takes a
match back. Where every offset has one answer, the answers decide how a repetition ends and how
many rounds that takes.
-/

namespace Descent

namespace Bounds

/-- The bounds that are left after some matches. -/
def dropped (bounds : Bounds) (count : Nat) : Bounds where
  least := bounds.least - count
  most := bounds.most.map (· - count)
  ordered := by
    intro most hmost
    obtain ⟨most', hmost', rfl⟩ := Option.map_eq_some_iff.mp hmost
    have := bounds.ordered most' hmost'
    omega

/-- Bounds with room for some more matches. -/
def extended (bounds : Bounds) (count : Nat) : Bounds where
  least := bounds.least
  most := bounds.most.map (· + count)
  ordered := by
    intro most hmost
    obtain ⟨most', hmost', rfl⟩ := Option.map_eq_some_iff.mp hmost
    have := bounds.ordered most' hmost'
    omega

end Bounds

variable {α : Type}

/-- Matches in a row: each starts where the one before has ended. -/
inductive Chain (answers : Nat → Outcome α → Prop) : Nat → List α → Nat → Prop where
  | stop (offset : Nat) : Chain answers offset [] offset
  | go {offset middle next : Nat} {value : α} {values : List α}
    (first : answers offset (.matched value middle)) (more : Chain answers middle values next) :
    Chain answers offset (value :: values) next

/-- What a repetition makes of a round that does not match, given the matches before it. -/
inductive Bounds.Ends (bounds : Bounds) (values : List α) (stop : Nat) :
    Outcome α → Outcome (List α) → Prop where
  | ended (failure : Failure) (enough : bounds.least ≤ values.length) :
    Ends bounds values stop (.failed failure) (.matched values stop)
  | missed (failure : Failure) (short : values.length < bounds.least) :
    Ends bounds values stop (.failed failure) (.failed failure)
  | broken (fault : Fault) : Ends bounds values stop (.faulted fault) (.faulted fault)

/-- How a repetition ends, and after how many rounds; a round that does not match counts. -/
inductive Repeats (answers : Nat → Outcome α → Prop) (bounds : Bounds) (offset : Nat) :
    Outcome (List α) → Nat → Prop where
  | full {values : List α} {next : Nat} (chain : Chain answers offset values next)
    (most : bounds.most = some values.length) :
    Repeats answers bounds offset (.matched values next) values.length
  | last {values : List α} {stop : Nat} {round : Outcome α} {result : Outcome (List α)}
    (chain : Chain answers offset values stop) (room : ∀ most ∈ bounds.most, values.length < most)
    (answer : answers stop round) (ends : bounds.Ends values stop round result) :
    Repeats answers bounds offset result (values.length + 1)

namespace Chain

variable {answers : Nat → Outcome α → Prop} {offset middle next stop stop' : Nat}
  {values values' : List α}

theorem append (h : Chain answers offset values middle) (h' : Chain answers middle values' next) :
    Chain answers offset (values ++ values') next := by
  induction h with
  | stop offset => exact h'
  | go first more ih => exact .go first (ih h')

/-- Where each offset has one answer, the longer of two chains goes on where the other stops. -/
theorem exists_rest (hone : ∀ offset round round', answers offset round → answers offset round' →
      round = round')
    (h : Chain answers offset values stop) (h' : Chain answers offset values' stop')
    (hle : values.length ≤ values'.length) :
    ∃ rest, values' = values ++ rest ∧ Chain answers stop rest stop' := by
  induction h generalizing values' with
  | stop offset => exact ⟨values', rfl, h'⟩
  | go first more ih =>
    cases h' with
    | stop => simp at hle
    | go first' more' =>
      cases hone _ _ _ first first'
      obtain ⟨rest, rfl, hrest⟩ := ih more' (by simpa using hle)
      exact ⟨rest, rfl, hrest⟩

end Chain

namespace Repeats

variable {answers : Nat → Outcome α → Prop} {bounds bounds' : Bounds} {offset middle rounds : Nat}
  {values : List α} {outcome outcome' : Outcome (List α)}

/-- Matches in front of a repetition, which then needs and may have so many fewer. -/
theorem after (h : Repeats answers bounds' middle outcome rounds)
    (chain : Chain answers offset values middle)
    (hleast : bounds'.least = bounds.least - values.length)
    (hmost : bounds.most = bounds'.most.map (· + values.length)) :
    Repeats answers bounds offset (outcome.map (values ++ ·)) (values.length + rounds) := by
  cases h with
  | @full values' next chain' most =>
    have hlength : values.length + values'.length = (values ++ values').length := by simp
    rw [hlength]
    refine .full (chain.append chain') ?_
    rw [hmost, most, ← hlength, Option.map_some, Nat.add_comm]
  | @last values' stop round result chain' room answer ends =>
    have hlength : values.length + (values'.length + 1) = (values ++ values').length + 1 := by
      simp [Nat.add_assoc]
    rw [hlength]
    refine .last (chain.append chain') ?_ answer ?_
    · intro most hm
      rw [hmost] at hm
      obtain ⟨most', hm', rfl⟩ := Option.map_eq_some_iff.mp hm
      have := room most' hm'
      simp only [List.length_append]
      omega
    · cases ends with
      | ended failure enough => exact .ended failure (by simp only [List.length_append]; omega)
      | missed failure short => exact .missed failure (by simp only [List.length_append]; omega)
      | broken fault => exact .broken fault

theorem exactly {count next : Nat}
    (h : Repeats answers (.exactly count) offset (.matched values next) rounds) :
    Chain answers offset values next ∧ values.length = count ∧ rounds = count := by
  cases h with
  | full chain most =>
    cases most
    exact ⟨chain, rfl, rfl⟩
  | last chain room answer ends =>
    have hlt := room count rfl
    cases ends with
    | ended failure enough => exact absurd hlt (Nat.not_lt.mpr enough)

/-- What goes wrong among the rounds that have to match goes wrong in the whole. -/
theorem of_exactly (h : Repeats answers (.exactly bounds.least) offset outcome rounds)
    (hunmatched : ∀ values next, outcome ≠ .matched values next) :
    Repeats answers bounds offset outcome rounds := by
  cases h with
  | full chain most => exact absurd rfl (hunmatched _ _)
  | @last values stop round result chain room answer ends =>
    have hshort : values.length < bounds.least := room bounds.least rfl
    refine .last chain ?_ answer ?_
    · intro most hmost
      exact Nat.lt_of_lt_of_le hshort (bounds.ordered most hmost)
    · cases ends with
      | ended => exact absurd rfl (hunmatched _ _)
      | missed failure short => exact .missed failure short
      | broken fault => exact .broken fault

theorem matched_iff {next : Nat} :
    Repeats answers bounds offset (.matched values next) rounds ↔
      Chain answers offset values next ∧ bounds.least ≤ values.length ∧
        (∀ most ∈ bounds.most, values.length ≤ most) ∧
        (bounds.most = some values.length ∧ rounds = values.length ∨
          bounds.most ≠ some values.length ∧ rounds = values.length + 1 ∧
            ∃ failure, answers next (.failed failure)) := by
  constructor
  · intro h
    cases h with
    | full chain most =>
      refine ⟨chain, bounds.ordered _ most, ?_, .inl ⟨most, rfl⟩⟩
      intro m hm
      cases most.symm.trans hm
      exact Nat.le_refl _
    | last chain room answer ends =>
      cases ends with
      | ended failure enough =>
        refine ⟨chain, enough, ?_, .inr ⟨?_, rfl, failure, answer⟩⟩
        · exact fun most hmost => Nat.le_of_lt (room most hmost)
        · exact fun hfull => Nat.lt_irrefl _ (room _ hfull)
  · rintro ⟨chain, hleast, hwithin, ⟨most, rfl⟩ | ⟨hopen, rfl, failure, answer⟩⟩
    · exact .full chain most
    · refine .last chain ?_ answer (.ended failure hleast)
      intro m hm
      exact Nat.lt_of_le_of_ne (hwithin m hm) fun heq => hopen (heq ▸ hm)

theorem failed_iff {failure : Failure} :
    Repeats answers bounds offset (.failed failure) rounds ↔
      ∃ values stop, Chain answers offset values stop ∧ values.length < bounds.least ∧
        answers stop (.failed failure) ∧ rounds = values.length + 1 := by
  constructor
  · intro h
    cases h with
    | @last values stop round result chain room answer ends =>
      cases ends with
      | missed failure short => exact ⟨values, stop, chain, short, answer, rfl⟩
  · rintro ⟨values, stop, chain, short, answer, rfl⟩
    refine .last chain ?_ answer (.missed failure short)
    intro most hmost
    exact Nat.lt_of_lt_of_le short (bounds.ordered most hmost)

theorem faulted_iff {fault : Fault} :
    Repeats answers bounds offset (.faulted fault) rounds ↔
      ∃ values stop, Chain answers offset values stop ∧
        (∀ most ∈ bounds.most, values.length < most) ∧
        answers stop (.faulted fault) ∧ rounds = values.length + 1 := by
  constructor
  · intro h
    cases h with
    | @last values stop round result chain room answer ends =>
      cases ends
      exact ⟨values, stop, chain, room, answer, rfl⟩
  · rintro ⟨values, stop, chain, room, answer, rfl⟩
    exact .last chain room answer (.broken fault)

/-- The matches before the end, and why there are no more of them. -/
theorem exists_stop (h : Repeats answers bounds offset outcome rounds) :
    ∃ values stop, Chain answers offset values stop ∧ (∀ most ∈ bounds.most, values.length ≤ most) ∧
      (bounds.most = some values.length ∧ outcome = .matched values stop ∧ rounds = values.length ∨
        (∀ most ∈ bounds.most, values.length < most) ∧ rounds = values.length + 1 ∧
          ∃ round, answers stop round ∧ bounds.Ends values stop round outcome) := by
  cases h with
  | @full values next chain most =>
    refine ⟨values, next, chain, ?_, .inl ⟨most, rfl, rfl⟩⟩
    intro m hm
    cases most.symm.trans hm
    exact Nat.le_refl _
  | @last values stop round result chain room answer ends =>
    exact ⟨values, stop, chain, fun m hm => Nat.le_of_lt (room m hm),
      .inr ⟨room, rfl, round, answer, ends⟩⟩

end Repeats

namespace Bounds

variable {bounds : Bounds} {values : List α} {stop : Nat} {round : Outcome α}
  {result result' : Outcome (List α)}

theorem Ends.ne_matched (h : bounds.Ends values stop round result) {value : α} {next : Nat} :
    round ≠ .matched value next := by
  cases h <;> simp

theorem Ends.unique (h : bounds.Ends values stop round result)
    (h' : bounds.Ends values stop round result') : result = result' := by
  cases h with
  | ended failure enough =>
    cases h' with
    | ended => rfl
    | missed failure short => omega
  | missed failure short =>
    cases h' with
    | ended failure enough => omega
    | missed => rfl
  | broken fault =>
    cases h'
    rfl

end Bounds

section Unique

variable {answers : Nat → Outcome α → Prop} {bounds : Bounds}
  {offset stop stop' rounds rounds' : Nat}
  {values values' : List α} {outcome outcome' : Outcome (List α)}
  (hone : ∀ offset round round', answers offset round → answers offset round' → round = round')

include hone

/-- A chain that has as many matches as it may have, or stops at an answer that is no match, is the
longest one. -/
theorem Chain.length_le (h : Chain answers offset values stop)
    (h' : Chain answers offset values' stop')
    (hwithin : ∀ most ∈ bounds.most, values'.length ≤ most)
    (hend : bounds.most = some values.length ∨
      ∃ round, answers stop round ∧ ∀ value next, round ≠ .matched value next) :
    values'.length ≤ values.length := by
  rcases hend with hmost | ⟨round, hround, hunmatched⟩
  · exact hwithin _ hmost
  · refine Nat.le_of_not_lt ?_
    intro hlt
    obtain ⟨rest, rfl, hrest⟩ := h.exists_rest hone h' (Nat.le_of_lt hlt)
    cases hrest with
    | stop => simp at hlt
    | go first more => exact hunmatched _ _ (hone _ _ _ hround first)

theorem Repeats.unique (h : Repeats answers bounds offset outcome rounds)
    (h' : Repeats answers bounds offset outcome' rounds') :
    outcome = outcome' ∧ rounds = rounds' := by
  obtain ⟨values, stop, hchain, hwithin, hend⟩ := h.exists_stop
  obtain ⟨values', stop', hchain', hwithin', hend'⟩ := h'.exists_stop
  have hstop : bounds.most = some values.length ∨
      ∃ round, answers stop round ∧ ∀ value next, round ≠ .matched value next :=
    hend.imp And.left fun ⟨_, _, round, hround, hends⟩ =>
      ⟨round, hround, fun _ _ => hends.ne_matched⟩
  have hstop' : bounds.most = some values'.length ∨
      ∃ round, answers stop' round ∧ ∀ value next, round ≠ .matched value next :=
    hend'.imp And.left fun ⟨_, _, round, hround, hends⟩ =>
      ⟨round, hround, fun _ _ => hends.ne_matched⟩
  have hle := hchain'.length_le hone hchain hwithin hstop'
  have hle' := hchain.length_le hone hchain' hwithin' hstop
  obtain ⟨rest, rfl, hrest⟩ := hchain.exists_rest hone hchain' hle
  rw [List.length_append] at hle'
  obtain rfl : rest = [] := List.eq_nil_of_length_eq_zero (by omega)
  cases hrest
  rw [List.append_nil] at hend'
  rcases hend with ⟨hmost, rfl, rfl⟩ | ⟨hroom, rfl, round, hround, hends⟩
  · rcases hend' with ⟨-, rfl, rfl⟩ | ⟨hroom', -⟩
    · exact ⟨rfl, rfl⟩
    · exact absurd (hroom' _ hmost) (Nat.lt_irrefl _)
  · rcases hend' with ⟨hmost', -⟩ | ⟨-, rfl, round', hround', hends'⟩
    · exact absurd (hroom _ hmost') (Nat.lt_irrefl _)
    · cases hone _ _ _ hround hround'
      exact ⟨hends.unique hends', rfl⟩

/-- It matches exactly at the end of a chain of allowed length that is full or stops at a
failure. -/
theorem Repeats.eq_matched_iff (h : Repeats answers bounds offset outcome rounds) {next : Nat} :
    outcome = .matched values next ↔
      Chain answers offset values next ∧ bounds.least ≤ values.length ∧
        (∀ most ∈ bounds.most, values.length ≤ most) ∧
        (bounds.most = some values.length ∨ ∃ failure, answers next (.failed failure)) := by
  constructor
  · rintro rfl
    obtain ⟨hchain, hleast, hwithin, hend⟩ := matched_iff.mp h
    exact ⟨hchain, hleast, hwithin, hend.imp And.left fun ⟨_, _, hfailed⟩ => hfailed⟩
  · rintro ⟨hchain, hleast, hwithin, hend⟩
    by_cases hfull : bounds.most = some values.length
    · have hmatched := matched_iff.mpr ⟨hchain, hleast, hwithin, .inl ⟨hfull, rfl⟩⟩
      exact (h.unique hone hmatched).1
    · have hfailed := hend.resolve_left hfull
      have hmatched := matched_iff.mpr ⟨hchain, hleast, hwithin, .inr ⟨hfull, rfl, hfailed⟩⟩
      exact (h.unique hone hmatched).1

/-- It fails exactly if a chain that is too short stops at that failure. -/
theorem Repeats.eq_failed_iff (h : Repeats answers bounds offset outcome rounds)
    {failure : Failure} :
    outcome = .failed failure ↔
      ∃ values stop, Chain answers offset values stop ∧ values.length < bounds.least ∧
        answers stop (.failed failure) := by
  constructor
  · rintro rfl
    obtain ⟨values, stop, hchain, hshort, hanswer, -⟩ := failed_iff.mp h
    exact ⟨values, stop, hchain, hshort, hanswer⟩
  · rintro ⟨values, stop, hchain, hshort, hanswer⟩
    have hfailed := failed_iff.mpr ⟨values, stop, hchain, hshort, hanswer, rfl⟩
    exact (h.unique hone hfailed).1

theorem Repeats.eq_faulted_iff (h : Repeats answers bounds offset outcome rounds) {fault : Fault} :
    outcome = .faulted fault ↔
      ∃ values stop, Chain answers offset values stop ∧
        (∀ most ∈ bounds.most, values.length < most) ∧ answers stop (.faulted fault) := by
  constructor
  · rintro rfl
    obtain ⟨values, stop, hchain, hroom, hanswer, -⟩ := faulted_iff.mp h
    exact ⟨values, stop, hchain, hroom, hanswer⟩
  · rintro ⟨values, stop, hchain, hroom, hanswer⟩
    have hfaulted := faulted_iff.mpr ⟨values, stop, hchain, hroom, hanswer, rfl⟩
    exact (h.unique hone hfaulted).1

end Unique

end Descent
