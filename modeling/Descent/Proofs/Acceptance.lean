import Descent.Proofs.FurthestFailure

/-!
# Acceptance

A parse of the whole input trusts the offset at which the parser says that its match ends, and an
offset past the end counts as the end. Only a custom function can answer with one: where none does,
what is accepted are the matches that end exactly where the input does.
-/

namespace Descent

variable {S : Signature} {α : Type} {grammar : Grammar S} {input : Text}

/-- Started within the input, the function does not match past its end. -/
def Act.StaysWithin {α : Type} (act : Act α) : Prop :=
  ∀ input tracker offset value next, offset ≤ Text.size input →
    (act input tracker offset).2 = .matched value next → next ≤ Text.size input

/-- Custom functions that keep to the input. -/
def staying : Kind := fun _ act => act.StaysWithin

theorem Course.next_le_size {Allowed : Kind} (hkind : ∀ α act, Allowed α act → staying α act)
    {start : Nat} {before after : Tracker} {outcome : Outcome Unit} {events : List (Event S.Rule)}
    (h : Course grammar input Allowed start before outcome events after)
    (hstart : start ≤ input.size) {next : Nat} (hmatched : outcome = .matched () next) :
    next ≤ input.size := by
  induction h generalizing next with
  | stay =>
    cases hmatched
    exact hstart
  | take a taken rest t hsplit =>
    cases hmatched
    rw [hsplit, Text.size_append (a ++ taken)]
    exact Nat.le_add_right _ _
  | misplaced | fail | fault | missed | broken => cases hmatched
  | custom start t act hallowed =>
    obtain ⟨value, hvalue⟩ := Outcome.shape_eq_matched_iff.mp hmatched
    exact hkind _ act hallowed input t start value next hstart hvalue
  | goOn _ _ ih ih' => exact ih' (ih hstart rfl) hmatched
  | goBack _ _ _ ih => exact ih hstart hmatched
  | construct rule _ ih => exact ih hstart hmatched
  | left probe _ ih => exact ih hstart hmatched

namespace Parser

/-- The whole input is accepted with a value. -/
def Accepts (fuel : Nat) (grammar : Grammar S) (p : Parser S α) (input : Text) (cells : Cells S)
    (value : α) : Prop :=
  ∃ parse, p.parseWithin fuel grammar input cells = some parse ∧ parse.verdict = .accepted value

/-- Run at the beginning of the input, with a fresh tracker, the parser matches up to an offset. -/
def MatchesTo (fuel : Nat) (grammar : Grammar S) (p : Parser S α) (input : Text) (cells : Cells S)
    (value : α) (next : Nat) : Prop :=
  ∃ run, p.runWithin grammar input fuel 0 (.fresh cells) = some run ∧
    run.outcome = .matched value next

section Acceptance

variable {p : Parser S α} {cells : Cells S} {fuel : Nat} {value : α}

theorem accepts_iff_exists_matchesTo :
    p.Accepts fuel grammar input cells value ↔
      ∃ next, p.MatchesTo fuel grammar input cells value next ∧ input.size ≤ next := by
  constructor
  · rintro ⟨parse, hparse, haccepted⟩
    obtain ⟨run, hrun, rfl⟩ := Option.map_eq_some_iff.mp hparse
    obtain ⟨next, hmatched, hend⟩ := Parse.ofRun_accepted_iff.mp haccepted
    exact ⟨next, ⟨run, hrun, hmatched⟩, hend⟩
  · rintro ⟨next, ⟨run, hrun, hmatched⟩, hend⟩
    exact ⟨_, Option.map_eq_some_iff.mpr ⟨run, hrun, rfl⟩,
      Parse.ofRun_accepted_iff.mpr ⟨next, hmatched, hend⟩⟩

theorem MatchesTo.le_size {next : Nat} (hg : grammar.Composed staying) (hp : p.Composed staying)
    (hcells : cells.Faithful grammar) (h : p.MatchesTo fuel grammar input cells value next) :
    next ≤ input.size := by
  obtain ⟨run, hrun, hmatched⟩ := h
  have hcourse := (charted_runWithin hg fuel hp hrun hcells).2
  exact hcourse.next_le_size (fun _ _ h => h) (Nat.zero_le _)
    (Outcome.shape_eq_matched_iff.mpr ⟨value, hmatched⟩)

end Acceptance

/-- What is accepted are the matches that end at the end of the input or past it. As long as custom
functions keep to the input, no match ends past it. -/
theorem accepts_iff_matchesTo (grammar : Grammar S) (p : Parser S α) (input : Text)
    (cells : Cells S) (fuel : Nat) (value : α) :
    (p.Accepts fuel grammar input cells value ↔
      ∃ next, p.MatchesTo fuel grammar input cells value next ∧ input.size ≤ next) ∧
    (grammar.Composed staying → p.Composed staying → cells.Faithful grammar →
      (p.Accepts fuel grammar input cells value ↔
        p.MatchesTo fuel grammar input cells value input.size)) := by
  refine ⟨accepts_iff_exists_matchesTo, ?_⟩
  intro hg hp hcells
  rw [accepts_iff_exists_matchesTo]
  constructor
  · rintro ⟨next, hmatches, hend⟩
    rw [Nat.le_antisymm hend (hmatches.le_size hg hp hcells)]
    exact hmatches
  · intro hmatches
    exact ⟨input.size, hmatches, Nat.le_refl _⟩

end Parser

namespace Nested

theorem nest_accepts_iff_matchesTo :
    nest.MatchesTo 9 Nested.grammar "()".toList .empty 1 2 ∧
      (nest.Accepts 9 Nested.grammar "()".toList .empty 1 ↔
        nest.MatchesTo 9 Nested.grammar "()".toList .empty 1 2) := by
  have hend : (nest.runWithin Nested.grammar "()".toList 9 0 (.fresh .empty)).map (·.outcome) =
      some (.matched 1 2) := by
    decide +kernel
  exact ⟨Option.map_eq_some_iff.mp hend,
    (Parser.accepts_iff_matchesTo Nested.grammar nest "()".toList .empty 9 1).2
      (isPlain_grammar.composed staying) (isPlain_nest.composed staying) Cells.faithful_empty⟩

/-- Claims three bytes, whether or not they are there. -/
def leap : Act Nat := fun _ _ offset => ([], .matched 3 (offset + 3))

/-- A match that ends past the end of the input is accepted all the same. -/
theorem leap_accepted :
    (Parser.custom leap).MatchesTo 9 Nested.grammar "ab".toList .empty 3 3 ∧
      ¬ ((Parser.custom leap).Accepts 9 Nested.grammar "ab".toList .empty 3 ↔
        (Parser.custom leap).MatchesTo 9 Nested.grammar "ab".toList .empty 3
          (Text.size "ab".toList)) := by
  have hmatches : (Parser.custom leap).MatchesTo 9 Nested.grammar "ab".toList .empty 3 3 :=
    ⟨_, rfl, rfl⟩
  refine ⟨hmatches, ?_⟩
  intro hiff
  have haccepts : (Parser.custom leap).Accepts 9 Nested.grammar "ab".toList .empty 3 :=
    Parser.accepts_iff_exists_matchesTo.mpr ⟨3, hmatches, by decide⟩
  obtain ⟨run, hrun, hmatched⟩ := hiff.mp haccepts
  cases hrun
  cases hmatched

end Nested

end Descent
