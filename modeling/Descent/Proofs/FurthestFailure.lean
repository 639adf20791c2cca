import Descent.Proofs.Course
import Descent.Proofs.Nested
import Descent.Proofs.Tracker

/-!
# The error describes the furthest failure

Whatever is backtracked over, the tracker of a run is the fold of all failures reported in it, and
a failure that a run ends with is among them. So the error of a failed parse describes the last of
the furthest failures that were reported anywhere in the parse.
-/

namespace Descent

variable {S : Signature} {α : Type} {grammar : Grammar S} {input : Text}

/-- A failure that the function ends with is one that it has reported. -/
def Act.ReportsItsFailure {α : Type} (act : Act α) : Prop :=
  ∀ input tracker offset failure, (act input tracker offset).2 = .failed failure →
    failure ∈ (act input tracker offset).1

/-- Custom functions that get their failures from the context they are given. -/
def reporting : Kind := fun _ act => act.ReportsItsFailure

namespace Course

variable {Allowed : Kind} {start : Nat} {before after : Tracker} {outcome : Outcome Unit}
  {events : List (Event S.Rule)}

/-- Nothing resets the tracker or takes a report back. -/
theorem after_eq (h : Course grammar input Allowed start before outcome events after) :
    after = before.reportAll (Event.reports events) := by
  induction h with
  | stay | take | misplaced | fault => rfl
  | fail start t expected => rw [Event.reports_observe]; rfl
  | custom start t act => rw [Event.reports_observeAll]
  | goOn _ _ ih ih' | goBack _ _ ih ih' =>
    rw [Event.reports_append, Tracker.reportAll_append, ← ih, ih']
  | construct rule _ ih => simpa [Event.report?] using ih
  | left | missed | broken => simpa [Event.report?]

/-- A run that fails has reported the failure, if the custom functions do so. -/
theorem mem_reports (hkind : ∀ α act, Allowed α act → reporting α act)
    (h : Course grammar input Allowed start before outcome events after) {failure : Failure}
    (hfailed : outcome = .failed failure) :
    failure ∈ Event.reports events := by
  induction h with
  | stay | take | misplaced | fault => cases hfailed
  | fail start t expected =>
    cases hfailed
    simp
  | custom start t act hallowed =>
    rw [Event.reports_observeAll]
    exact hkind _ act hallowed _ _ _ _ (Outcome.shape_eq_failed_iff.mp hfailed)
  | goOn _ _ _ ih | goBack _ _ _ ih =>
    rw [Event.reports_append]
    exact List.mem_append_right _ (ih hfailed)
  | construct rule _ ih => simpa [Event.report?] using ih hfailed
  | missed probe _ ih => simpa [Event.report?] using ih hfailed
  | left | broken => cases hfailed

end Course

def ParseError.failure (error : ParseError) : Failure where
  offset := error.offset
  expected := error.expected

theorem ParseError.failure_of_at? {failure : Failure} {error : ParseError}
    (h : at? input failure = some error) : error.failure = failure := by
  obtain ⟨message, -, hat⟩ := exists_at?_eq_map input failure
  rw [hat] at h
  obtain ⟨position, -, rfl⟩ := Option.map_eq_some_iff.mp h
  rfl

theorem Parse.conclude_ne_accepted (failure : Failure) (events : List (Event S.Rule))
    (memory : Memory S) (value : α) :
    (conclude input failure events memory : Parse S α).verdict ≠ .accepted value := by
  unfold conclude
  split <;> simp

/-- Only a match that reached the end of the input is accepted. -/
theorem Parse.matched_of_accepted {run : Run S α} {value : α}
    (h : (ofRun input run).verdict = .accepted value) :
    ∃ next, run.outcome = .matched value next ∧ input.size ≤ next := by
  unfold ofRun at h
  cases hout : run.outcome with
  | matched value' next =>
    simp only [hout] at h
    split at h
    · next hend =>
      cases h
      exact ⟨next, rfl, of_decide_eq_true hend⟩
    · exact absurd h (conclude_ne_accepted _ _ _ value)
  | failed failure =>
    simp only [hout] at h
    exact absurd h (conclude_ne_accepted _ _ _ value)
  | faulted fault => simp [hout] at h

theorem Parse.ofRun_accepted_iff {run : Run S α} {value : α} :
    (ofRun input run).verdict = .accepted value ↔
      ∃ next, run.outcome = .matched value next ∧ input.size ≤ next := by
  refine ⟨matched_of_accepted, ?_⟩
  rintro ⟨next, hmatched, hend⟩
  unfold ofRun
  simp [hmatched, Text.isAtEnd, hend]

theorem Parse.conclude_rejected {failure : Failure} {events : List (Event S.Rule)}
    {memory : Memory S} {error : ParseError}
    (h : (conclude input failure events memory : Parse S α).verdict = .rejected error) :
    ParseError.at? input (memory.tracker.failure?.getD failure) = some error ∧
      (conclude input failure events memory : Parse S α).events = events ++ [.concluded error] := by
  unfold conclude at h ⊢
  split at h
  · next hat =>
    cases h
    rw [hat]
    exact ⟨rfl, rfl⟩
  · cases h

/-- The failure that was returned is not needed: it has been reported, so the tracker knows it or a
further one. -/
theorem Course.exists_isLastFurthest {Allowed : Kind}
    (hkind : ∀ α act, Allowed α act → reporting α act) {events : List (Event S.Rule)}
    {start : Nat} {after : Tracker} {failure : Failure}
    (h : Course grammar input Allowed start .empty (.failed failure) events after) :
    ∃ furthest, after.failure? = some furthest ∧
      furthest.IsLastFurthest (Event.reports events) := by
  have hmem := h.mem_reports hkind rfl
  have hsome : after.failure? ≠ none := by
    intro hnone
    rw [h.after_eq, Tracker.failure?_reportAll_eq_none_iff] at hnone
    rw [hnone.2] at hmem
    cases hmem
  obtain ⟨furthest, hfurthest⟩ := Option.ne_none_iff_exists'.mp hsome
  refine ⟨furthest, hfurthest, ?_⟩
  rw [h.after_eq] at hfurthest
  exact Tracker.isLastFurthest_reportAll hfurthest

/-- A rejected parse is a failed course and then the error for the last of its furthest failures. -/
theorem Parse.Ends.exists_course {Allowed : Kind} {parse : Parse S α} {error : ParseError}
    (h : parse.Ends grammar input Allowed) (hkind : ∀ α act, Allowed α act → reporting α act)
    (hrejected : parse.verdict = .rejected error) :
    ∃ failure events after, Course grammar input Allowed 0 .empty (.failed failure) events after ∧
      error.failure.IsLastFurthest (Event.reports events) ∧
      parse.events = events ++ [.concluded error] := by
  rcases h with ⟨value, haccepted⟩ | ⟨failure, events, memory, hcourse, rfl⟩ | ⟨fault, _, hf, _⟩
  · cases haccepted.symm.trans hrejected
  · obtain ⟨hat, hevents⟩ := conclude_rejected hrejected
    obtain ⟨furthest, hfurthest, hlast⟩ := hcourse.exists_isLastFurthest hkind
    rw [hfurthest, Option.getD_some] at hat
    rw [← ParseError.failure_of_at? hat] at hlast
    exact ⟨failure, events, memory.tracker, hcourse, hlast, hevents⟩
  · cases hf.symm.trans hrejected

theorem Parse.Ends.isLastFurthest {parse : Parse S α} {error : ParseError}
    (h : parse.Ends grammar input reporting) (hrejected : parse.verdict = .rejected error) :
    error.failure.IsLastFurthest (Event.reports parse.events) := by
  obtain ⟨failure, events, after, -, hlast, hevents⟩ := h.exists_course (fun _ _ h => h) hrejected
  rw [hevents]
  simpa [Event.report?] using hlast

namespace Parser

/-- Both entry points reject with the last of the furthest failures reported in the whole parse,
and never fall back on the failure that the run returned. -/
theorem rejected_isLastFurthest (hg : grammar.Composed reporting) {p : Parser S α}
    (hp : p.Composed reporting) {cells : Cells S} (hcells : cells.Faithful grammar)
    (input : Text) (fuel : Nat) :
    (∀ parse error, p.parseWithin fuel grammar input cells = some parse →
      parse.verdict = .rejected error →
        Event.reports parse.events ≠ [] ∧
          error.failure.IsLastFurthest (Event.reports parse.events)) ∧
    (∀ parse error, p.parsePartialWithin fuel grammar input cells = some parse →
      parse.verdict = .rejected error →
        Event.reports parse.events ≠ [] ∧
          error.failure.IsLastFurthest (Event.reports parse.events)) ∧
    ∀ run failure, p.runWithin grammar input fuel 0 (.fresh cells) = some run →
      run.outcome = .failed failure → run.memory.tracker.failure? ≠ none := by
  refine ⟨?_, ?_, ?_⟩
  · intro parse error hparse hrejected
    have hlast := (parseWithin_ends hg hp hcells hparse).isLastFurthest hrejected
    exact ⟨hlast.ne_nil, hlast⟩
  · intro parse error hparse hrejected
    have hlast := (parsePartialWithin_ends hg hp hcells hparse).isLastFurthest hrejected
    exact ⟨hlast.ne_nil, hlast⟩
  · intro run failure hrun hfailed
    have hcourse := (charted_runWithin hg fuel hp hrun hcells).2
    rw [hfailed] at hcourse
    obtain ⟨furthest, hfurthest, -⟩ := hcourse.exists_isLastFurthest fun _ _ h => h
    exact Option.ne_none_iff_exists'.mpr ⟨furthest, hfurthest⟩

end Parser

theorem Nested.composed_ahead : ahead.Composed reporting := by
  refine ⟨⟨trivial, ?_⟩, trivial⟩
  rintro _ input tracker offset failure ⟨⟩
  exact List.mem_singleton.mpr rfl

theorem Nested.ahead_isLastFurthest :
    ∃ parse error, ahead.parseWithin 9 Nested.grammar "(éyz".toList .empty = some parse ∧
      parse.verdict = .rejected error ∧ error.failure = ⟨3, "digit"⟩ ∧
      error.failure.IsLastFurthest (Event.reports parse.events) := by
  have hverdict : ((ahead.parseWithin 9 Nested.grammar "(éyz".toList .empty).map fun parse =>
      parse.verdict) = some (.rejected ⟨3, 2, "digit", ⟨0, 2⟩,
        "expected digit at character 2, got '...yz'\n    parsing: '(éyz'"⟩) := by
    decide +kernel
  obtain ⟨parse, hparse, hrejected⟩ := Option.map_eq_some_iff.mp hverdict
  obtain ⟨hwhole, -, -⟩ := Parser.rejected_isLastFurthest (isPlain_grammar.composed reporting)
    composed_ahead Cells.faithful_empty "(éyz".toList 9
  exact ⟨parse, _, hparse, hrejected, rfl, (hwhole parse _ hparse hrejected).2⟩

end Descent
