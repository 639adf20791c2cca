import Descent.Proofs.FurthestFailure
import Descent.Proofs.Upkeep

/-!
# Failures from elsewhere

A custom function may answer with a failure that another context has made. The tracker of the parse
does not know it, so the error describes it only if nothing was reported at all, and otherwise the
furthest report, however far before the returned failure that lies.
-/

namespace Descent

variable {S : Signature} {α : Type} {grammar : Grammar S} {input : Text} {returned : Failure}
  {error : ParseError}

/-- The error describes the last of the furthest reports, or what was returned if there are none. -/
structure ParseError.Reflects (error : ParseError) (returned : Failure) (reports : List Failure) :
    Prop where
  returned : reports = [] → error.failure = returned
  furthest : reports ≠ [] → error.failure.IsLastFurthest reports

namespace ParseError.Reflects

variable {reports : List Failure}

theorem offset_le_iff (h : error.Reflects returned reports) :
    returned.offset ≤ error.offset ↔
      reports = [] ∨ ∃ reported ∈ reports, returned.offset ≤ reported.offset := by
  constructor
  · intro hle
    by_cases hnone : reports = []
    · exact .inl hnone
    · exact .inr ⟨error.failure, (h.furthest hnone).mem, hle⟩
  · rintro (hnone | ⟨reported, hmem, hle⟩)
    · exact Nat.le_of_eq (congrArg Failure.offset (h.returned hnone)).symm
    · have hlast := h.furthest (List.ne_nil_of_mem hmem)
      exact Nat.le_trans hle (hlast.offset_le reported hmem)

end ParseError.Reflects

theorem Tracker.reflects {reports : List Failure}
    (h : ParseError.at? input ((empty.reportAll reports).failure?.getD returned) = some error) :
    error.Reflects returned reports := by
  have hfailure := ParseError.failure_of_at? h
  cases hbest : (empty.reportAll reports).failure? with
  | none =>
    rw [hbest, Option.getD_none] at hfailure
    have hnone := (failure?_reportAll_eq_none_iff.mp hbest).2
    exact ⟨fun _ => hfailure, fun hsome => absurd hnone hsome⟩
  | some furthest =>
    rw [hbest, Option.getD_some] at hfailure
    have hlast : furthest.IsLastFurthest reports := isLastFurthest_reportAll hbest
    exact ⟨fun hnone => absurd hnone hlast.ne_nil, fun _ => hfailure ▸ hlast⟩

namespace Parser

variable {p : Parser S α} {cells : Cells S} {fuel : Nat} {run : Run S α}

/-- One of the entry points rejects the input with this error. -/
def Rejects (fuel : Nat) (grammar : Grammar S) (p : Parser S α) (input : Text) (cells : Cells S)
    (error : ParseError) : Prop :=
  (∃ parse, p.parseWithin fuel grammar input cells = some parse ∧
    parse.verdict = .rejected error) ∨
  ∃ parse, p.parsePartialWithin fuel grammar input cells = some parse ∧
    parse.verdict = .rejected error

/-- On a failed run both entry points conclude alike. -/
theorem Rejects.at? (h : p.Rejects fuel grammar input cells error)
    (hrun : p.runWithin grammar input fuel 0 (.fresh cells) = some run)
    (hfailed : run.outcome = .failed returned) :
    ParseError.at? input (run.memory.tracker.failure?.getD returned) = some error := by
  unfold Rejects parseWithin parsePartialWithin at h
  rw [hrun] at h
  rcases h with ⟨parse, hparse, hrejected⟩ | ⟨parse, hparse, hrejected⟩ <;> cases hparse
  · unfold Parse.ofRun at hrejected
    rw [hfailed] at hrejected
    exact (Parse.conclude_rejected hrejected).1
  · unfold Parse.ofRunPartial at hrejected
    rw [hfailed] at hrejected
    exact (Parse.conclude_rejected hrejected).1

/-- The failure that a run returns counts for the error exactly if nothing was reported in the run,
or something that lies as far. Parsers that report their failures make sure of that. -/
theorem returned_counts_iff (hcells : cells.Faithful grammar)
    (hrun : p.runWithin grammar input fuel 0 (.fresh cells) = some run)
    (hfailed : run.outcome = .failed returned) (h : p.Rejects fuel grammar input cells error) :
    (Event.reports run.events = [] → error.failure = returned) ∧
    (Event.reports run.events ≠ [] → error.failure.IsLastFurthest (Event.reports run.events)) ∧
    (returned.offset ≤ error.offset ↔ Event.reports run.events = [] ∨
      ∃ reported ∈ Event.reports run.events, returned.offset ≤ reported.offset) ∧
    (grammar.Composed reporting → p.Composed reporting → returned.offset ≤ error.offset) := by
  have hat := h.at? hrun hfailed
  rw [(faithful_and_tracker_of_run hcells hrun).2] at hat
  have hreflects := Tracker.reflects hat
  refine ⟨hreflects.returned, hreflects.furthest, hreflects.offset_le_iff, ?_⟩
  intro hg hp
  -- Such a parser has reported the failure that it returns.
  have hcourse := (charted_runWithin hg fuel hp hrun hcells).2
  rw [hfailed] at hcourse
  have hmem := hcourse.mem_reports (fun _ _ h => h) rfl
  exact hreflects.offset_le_iff.mpr (.inr ⟨returned, hmem, Nat.le_refl _⟩)

end Parser

namespace Nested

/-- Answers with a failure that was made for another input. -/
def elsewhere : Act String := fun _ _ _ => ([], .failed ⟨2, "later"⟩)

def orElsewhere : Parser Nested String :=
  (Parser.literal "x").orElse (.custom elsewhere)

/-- Where nothing is reported, the foreign failure makes the error. -/
theorem elsewhere_counts :
    ∃ run error, (Parser.custom elsewhere).runWithin Nested.grammar "abc".toList 9 0
        (.fresh .empty) = some run ∧ run.outcome = .failed ⟨2, "later"⟩ ∧
      (Parser.custom elsewhere).Rejects 9 Nested.grammar "abc".toList .empty error ∧
      error.failure = ⟨2, "later"⟩ := by
  have hends : ((Parser.custom elsewhere).runWithin Nested.grammar "abc".toList 9 0
      (.fresh .empty)).map (fun run => (run.outcome, Event.reports run.events)) =
        some (.failed ⟨2, "later"⟩, []) := by
    decide +kernel
  have hverdict : ((Parser.custom elsewhere).parseWithin 9 Nested.grammar "abc".toList .empty).map
      (·.verdict) = some (.rejected ⟨2, 2, "later", ⟨0, 2⟩,
        "expected later at character 2, got '...c'\n    parsing: 'abc'"⟩) := by
    decide +kernel
  obtain ⟨run, hrun, hend⟩ := Option.map_eq_some_iff.mp hends
  obtain ⟨hfailed, hnone⟩ := Prod.mk.inj hend
  obtain ⟨parse, hparse, hrejected⟩ := Option.map_eq_some_iff.mp hverdict
  have hrejects : (Parser.custom elsewhere).Rejects 9 Nested.grammar "abc".toList .empty _ :=
    .inl ⟨parse, hparse, hrejected⟩
  obtain ⟨hreturned, -⟩ :=
    Parser.returned_counts_iff Cells.faithful_empty hrun hfailed hrejects
  exact ⟨run, _, hrun, hfailed, hrejects, hreturned hnone⟩

/-- Behind a report that lies before it, the same failure is lost. -/
theorem elsewhere_lost :
    ∃ run error, orElsewhere.runWithin Nested.grammar "abc".toList 9 0 (.fresh .empty) =
        some run ∧ run.outcome = .failed ⟨2, "later"⟩ ∧
      orElsewhere.Rejects 9 Nested.grammar "abc".toList .empty error ∧
      error.failure = ⟨0, "'x'"⟩ ∧ ¬ 2 ≤ error.offset := by
  have hend : (orElsewhere.runWithin Nested.grammar "abc".toList 9 0 (.fresh .empty)).map
      (·.outcome) = some (.failed ⟨2, "later"⟩) := by
    decide +kernel
  have hverdict : (orElsewhere.parseWithin 9 Nested.grammar "abc".toList .empty).map (·.verdict) =
      some (.rejected ⟨0, 0, "'x'", ⟨0, 0⟩,
        "expected 'x' at character 0, got 'abc'\n    parsing: 'abc'"⟩) := by
    decide +kernel
  obtain ⟨run, hrun, hfailed⟩ := Option.map_eq_some_iff.mp hend
  obtain ⟨parse, hparse, hrejected⟩ := Option.map_eq_some_iff.mp hverdict
  exact ⟨run, _, hrun, hfailed, .inl ⟨parse, hparse, hrejected⟩, rfl, by simp⟩

end Nested

end Descent
