import Descent.Proofs.Watched

/-!
# Every failure is reported once

The reports of a run are the failures of its leaves, the parsers that contain no other, in their
order. Operators pass failures on, give them up or take them for the end of a repetition, and none
of this adds a report, repeats one or drops one. A run that fails has just reported the failure.
-/

namespace Descent

variable {S : Signature} {α : Type} {grammar : Grammar S} {input : Text}

namespace Event

variable {Rule : Type}

def missedBy? (name : String) : Event Rule → Option Failure
  | missed probe failure => if probe = name then some failure else none
  | _ => none

/-- The failures that probes of a name have recorded, in order. -/
def missedBy (name : String) (events : List (Event Rule)) : List Failure :=
  events.filterMap (missedBy? name)

@[simp]
theorem missedBy_nil (name : String) : missedBy name ([] : List (Event Rule)) = [] :=
  rfl

@[simp]
theorem missedBy_cons (name : String) (event : Event Rule) (events : List (Event Rule)) :
    missedBy name (event :: events) = (missedBy? name event).toList ++ missedBy name events := by
  unfold missedBy
  cases h : missedBy? name event <;> simp [h]

@[simp]
theorem missedBy_append (name : String) (xs ys : List (Event Rule)) :
    missedBy name (xs ++ ys) = missedBy name xs ++ missedBy name ys :=
  List.filterMap_append

@[simp]
theorem missedBy_observe (name : String) (t : Tracker) (failure : Failure) :
    missedBy name (t.observe failure : List (Event Rule) × Tracker).1 = [] := by
  unfold Tracker.observe
  split <;> rfl

@[simp]
theorem missedBy_map_furthest (name : String) (failures : List Failure) :
    missedBy name (failures.map furthest : List (Event Rule)) = [] := by
  induction failures with
  | nil => rfl
  | cons first rest ih => exact ih

end Event

/-- Every run ends at once, either quietly or with a failure that it reports. -/
def Action.IsElementary (action : Action S α) : Prop :=
  ∀ ⦃offset : Nat⦄ ⦃memory : Memory S⦄ ⦃run : Run S α⦄, action offset memory = some run →
    (∃ failure, run = .failing memory failure) ∨
      ∃ outcome, run = .quiet memory outcome ∧ ∀ failure, outcome ≠ .failed failure

namespace Action

theorem isElementary_failing (expected : String) :
    (failing expected : Action S α).IsElementary := by
  intro offset memory run hrun
  cases hrun
  exact .inl ⟨_, rfl⟩

theorem isElementary_quiet {outcome : Nat → Outcome α}
    (h : ∀ offset failure, outcome offset ≠ .failed failure) :
    IsElementary (S := S) fun offset memory => some (.quiet memory (outcome offset)) := by
  intro offset memory run hrun
  cases hrun
  exact .inr ⟨_, rfl, h offset⟩

theorem isElementary_endOfInput : (endOfInput input : Action S Unit).IsElementary := by
  intro offset memory run hrun
  unfold endOfInput at hrun
  split at hrun
  · cases hrun
    exact .inr ⟨_, rfl, by simp⟩
  · exact isElementary_failing "EOF" hrun

theorem isElementary_lexeme (l : Lexeme α) : (l.run input : Action S α).IsElementary := by
  intro offset memory run hrun
  unfold Lexeme.run at hrun
  split at hrun
  · cases hrun
    exact .inr ⟨_, rfl, by simp⟩
  · split at hrun
    · cases hrun
      exact .inr ⟨_, rfl, by simp⟩
    · exact isElementary_failing l.expected hrun

end Action

/-- Probes of a name record just the failures that are reported. -/
def Chronicle.recording (grammar : Grammar S) (name : String) : Chronicle S :=
  faithful grammar
    { holds := fun _ _ _ events _ => Event.missedBy name events = Event.reports events
      stay := fun _ _ => rfl
      goOn := by
        intro offset next memory memory' memory'' outcome xs ys hxs hys
        rw [Event.missedBy_append, Event.reports_append, hxs, hys]
      goBack := by
        intro offset failure memory memory' memory'' outcome xs ys hxs hys
        rw [Event.missedBy_append, Event.reports_append, hxs, hys] }

namespace Chronicle

variable {name other : String}

theorem recording_leaf {action : Action S α} (ha : action.IsElementary) :
    (recording grammar name).Covers (action.probed name) := by
  intro offset memory result hresult hcells
  obtain ⟨run, hrun, rfl⟩ := Option.map_eq_some_iff.mp hresult
  rcases ha hrun with ⟨failure, rfl⟩ | ⟨outcome, rfl, hfailed⟩
  · refine ⟨by simpa [Run.failing] using hcells, ?_⟩
    simp [Run.failing, Event.missedBy?, Event.report?]
  · refine ⟨by simpa [Run.quiet] using hcells, ?_⟩
    cases outcome with
    | matched value next => simp [Run.quiet, Event.missedBy?, Event.report?]
    | failed failure => exact absurd rfl (hfailed failure)
    | faulted fault => simp [Run.quiet, Event.missedBy?, Event.report?]

/-- What is recorded under another name does not count. -/
theorem recording_node (hother : other ≠ name) {action : Action S α}
    (ha : (recording grammar name).Covers action) :
    (recording grammar name).Covers (action.probed other) := by
  intro offset memory result hresult hcells
  obtain ⟨run, hrun, rfl⟩ := Option.map_eq_some_iff.mp hresult
  obtain ⟨hfaithful, hinside⟩ := ha hrun hcells
  have hrecorded : Event.missedBy name run.events = Event.reports run.events := hinside
  refine ⟨by simpa using hfaithful, ?_⟩
  cases hout : run.outcome <;>
    simp [hout, Event.missedBy?, Event.report?, hother, hrecorded]

theorem recording_lazy {call : (α : Type) → Parser S α → Action S α} {rule : S.Rule}
    (hbody : (recording grammar name).Covers (call _ (grammar.body rule))) (slot : Nat) :
    (recording grammar name).Covers (.lazy grammar call slot rule) := by
  apply faithful_lazy hbody
  intro offset memory outcome events memory' opening hrecorded
  have hopening : Event.missedBy name opening.events = Event.reports opening.events := by
    rcases Cells.opening_events memory.cells grammar slot rule with hevents | hevents
    · rw [hevents]
      rfl
    · rw [hevents]
      simp [Event.missedBy?, Event.report?]
  dsimp only at hrecorded ⊢
  rw [Event.missedBy_append, Event.reports_append, hopening, hrecorded]

end Chronicle

namespace Parser

variable {leaf node : String}

theorem recording_action_watched (hnames : node ≠ leaf)
    {call : (α : Type) → Parser S α → Action S α} (fuel : Nat)
    (hcall : ∀ rule, (Chronicle.recording (grammar.watched leaf node) leaf).Covers
      (call _ ((grammar.watched leaf node).body rule)))
    {p : Parser S α} (hp : p.IsPlain) :
    (Chronicle.recording (grammar.watched leaf node) leaf).Covers
      ((p.watched leaf node).action (grammar.watched leaf node) input call fuel) := by
  induction p with
  | lexeme l => exact Chronicle.recording_leaf (Action.isElementary_lexeme l)
  | endOfInput => exact Chronicle.recording_leaf Action.isElementary_endOfInput
  | always value => exact Chronicle.recording_leaf (Action.isElementary_quiet (by simp))
  | never expected => exact Chronicle.recording_leaf (Action.isElementary_failing expected)
  | currentOffset => exact Chronicle.recording_leaf (Action.isElementary_quiet (by simp))
  | map f p ih => exact Chronicle.recording_node hnames ((ih hp).map f)
  | bind p next ihp ihn =>
    exact Chronicle.recording_node hnames ((ihp hp.1).bind fun value => ihn value (hp.2 value))
  | zipWith f p q ihp ihq =>
    exact Chronicle.recording_node hnames ((ihp hp.1).bind fun a => (ihq hp.2).map (f a))
  | orElse p q ihp ihq => exact Chronicle.recording_node hnames ((ihp hp.1).orElse (ihq hp.2))
  | times p bounds ih => exact Chronicle.recording_node hnames ((ih hp).times bounds fuel)
  | lazy slot rule =>
    exact Chronicle.recording_node hnames (Chronicle.recording_lazy (hcall rule) slot)
  | probe name p ih => exact ih hp
  | custom act => exact hp.elim
  | fault cause => exact Chronicle.recording_leaf (Action.isElementary_quiet (by simp))

theorem recording_runWithin_watched (hnames : node ≠ leaf) (hg : grammar.IsPlain) (fuel : Nat)
    {p : Parser S α} (hp : p.IsPlain) :
    (Chronicle.recording (grammar.watched leaf node) leaf).Covers
      ((p.watched leaf node).runWithin (grammar.watched leaf node) input fuel) := by
  induction fuel generalizing α with
  | zero => exact Chronicle.covers_unfinished
  | succ fuel ih => exact recording_action_watched hnames fuel (fun rule => ih (hg rule)) hp

end Parser

theorem Course.getLast?_reports {start : Nat} {before after : Tracker} {outcome : Outcome Unit}
    {events : List (Event S.Rule)}
    (h : Course grammar input .none start before outcome events after) {failure : Failure}
    (hfailed : outcome = .failed failure) :
    (Event.reports events).getLast? = some failure := by
  induction h with
  | stay | take | misplaced | fault | left | broken => cases hfailed
  | fail start t expected =>
    cases hfailed
    rw [Event.reports_observe]
    rfl
  | custom start t act hnone => exact hnone.elim
  | goOn _ _ _ ih | goBack _ _ _ ih =>
    rw [Event.reports_append, List.getLast?_append, ih hfailed]
    rfl
  | construct rule _ ih => simpa [Event.report?] using ih hfailed
  | missed probe _ ih => simpa [Event.report?] using ih hfailed

namespace Parser

/-- In a run of a plain parser, each failure of a leaf is reported, once and in its place, and
nothing else is; the tracker takes in just these reports. The last one of a run that fails is the
failure it ends with. -/
theorem reports_eq_missedBy (hg : grammar.IsPlain) {p : Parser S α} (hp : p.IsPlain)
    {cells : Cells S} (hcells : cells.Faithful grammar) {leaf node : String} (hnames : node ≠ leaf)
    (input : Text) (fuel offset : Nat) (tracker : Tracker) {run : Run S α}
    (hrun : p.runWithin grammar input fuel offset ⟨tracker, cells⟩ = some run) :
    (∃ watched, (p.watched leaf node).runWithin (grammar.watched leaf node) input fuel offset
        ⟨tracker, .empty⟩ = some watched ∧
      watched.outcome = run.outcome ∧
      Event.missedBy leaf watched.events = Event.reports run.events ∧
      Event.reports watched.events = Event.reports run.events) ∧
    run.memory.tracker = tracker.reportAll (Event.reports run.events) ∧
    ∀ failure, run.outcome = .failed failure →
      (Event.reports run.events).getLast? = some failure := by
  have hcourse := (charted_runWithin hg fuel hp hrun hcells).2
  refine ⟨?_, hcourse.after_eq, ?_⟩
  · obtain ⟨watched, hwatched, hout, hreports, -⟩ :=
      exists_watched_run leaf node hg hp hcells hrun
    obtain ⟨-, hrecorded⟩ :=
      recording_runWithin_watched hnames hg fuel hp hwatched Cells.faithful_empty
    exact ⟨watched, hwatched, hout, hrecorded.trans hreports, hreports⟩
  · intro failure hfailed
    rw [hfailed] at hcourse
    exact hcourse.getLast?_reports rfl

end Parser

/-- Two reports of the inner nest at 2, where it is given up, come before the last one at 1. -/
theorem Nested.inParentheses_reports :
    ∃ run watched,
      inParentheses.runWithin Nested.grammar "((é".toList 9 0 ⟨.empty, .empty⟩ = some run ∧
      run.outcome = .failed ⟨1, "')'"⟩ ∧
      Event.reports run.events = [⟨2, "'('"⟩, ⟨2, "')'"⟩, ⟨1, "')'"⟩] ∧
      (Event.reports run.events).getLast? = some ⟨1, "')'"⟩ ∧
      (inParentheses.watched "leaf" "node").runWithin (Nested.grammar.watched "leaf" "node")
        "((é".toList 9 0 ⟨.empty, .empty⟩ = some watched ∧
      Event.missedBy "leaf" watched.events = Event.reports run.events := by
  have hsummary : ((inParentheses.runWithin Nested.grammar "((é".toList 9 0 ⟨.empty, .empty⟩).map
      fun run => (run.outcome, Event.reports run.events)) =
        some (.failed ⟨1, "')'"⟩, [⟨2, "'('"⟩, ⟨2, "')'"⟩, ⟨1, "')'"⟩]) := by
    decide +kernel
  obtain ⟨run, hrun, hboth⟩ := Option.map_eq_some_iff.mp hsummary
  obtain ⟨hfailed, hreports⟩ := Prod.mk.inj hboth
  have hnames : "node" ≠ "leaf" := by decide
  obtain ⟨⟨watched, hwatched, -, hrecorded, -⟩, -, hlast⟩ :=
    Parser.reports_eq_missedBy isPlain_grammar isPlain_inParentheses Cells.faithful_empty hnames
      "((é".toList 9 0 .empty hrun
  exact ⟨run, watched, hrun, hfailed, hreports, hlast _ hfailed, hwatched, hrecorded⟩

end Descent
