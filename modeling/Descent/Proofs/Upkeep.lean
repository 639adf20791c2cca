import Descent.Proofs.Chronicle
import Descent.Proofs.Coupling
import Descent.Proofs.Tracker

/-!
# What every run keeps

What a chronicle says of reports, of lazy nodes and of probes holds of all runs of all parsers,
custom functions included. So every run leaves faithful cells faithful, the tracker that it leaves
has taken in just the failures that it reports, and it enters no probe that is not there.
-/

namespace Descent

variable {S : Signature} {α : Type} {grammar : Grammar S} {input : Text}

theorem Event.reports_opening (cells : Cells S) (grammar : Grammar S) (slot : Nat)
    (rule : S.Rule) : Event.reports (cells.opening grammar slot rule).events = [] := by
  rcases cells.opening_events grammar slot rule with h | h <;> simp [h, Event.report?]

theorem Tracker.observeAll_singleton {Rule : Type} (t : Tracker) (failure : Failure) :
    (t.observeAll [failure] : List (Event Rule) × Tracker) = t.observe failure := by
  simp [observeAll]

/-- The record of how a probed run ended. -/
def Outcome.departure {Rule : Type} (probe : String) : Outcome Unit → List (Event Rule)
  | matched _ next => [.left probe next]
  | failed failure => [.missed probe failure]
  | faulted _ => []

/-- The chronicle does not mind how a run ends and with which reports, whether a body is run in its
node, and whether it is run in a probe of a known name. -/
structure Chronicle.Records (K : Chronicle S) (grammar : Grammar S) (Known : String → Prop) :
    Prop where
  report : ∀ offset memory failures outcome, K.holds offset memory outcome
    (memory.tracker.observeAll failures).1
    { memory with tracker := memory.tracker.reportAll failures }
  node : ∀ {offset memory slot rule outcome events memory'},
    let opening := memory.cells.opening grammar slot rule
    K.holds offset { memory with cells := opening.inner } outcome events memory' →
      K.holds offset memory outcome (opening.events ++ events)
        { memory' with cells := memory.cells.put slot rule opening.body memory'.cells }
  enter : ∀ {offset memory outcome events memory'} name, Known name →
    K.holds offset memory outcome events memory' →
      K.holds offset memory outcome (.entered name offset :: (events ++ outcome.departure name))
        memory'

namespace Chronicle.Records

variable {K : Chronicle S} {Known : String → Prop}

theorem quiet (hK : K.Records grammar Known) (outcome : Nat → Outcome α) :
    (K.faithful grammar).Covers fun offset memory => some (.quiet memory (outcome offset)) := by
  rintro offset memory run ⟨⟩ hcells
  exact ⟨hcells, hK.report offset memory [] (outcome offset).shape⟩

theorem failing (hK : K.Records grammar Known) (expected : String) :
    (K.faithful grammar).Covers (Action.failing expected : Action S α) := by
  rintro offset memory run ⟨⟩ hcells
  have hreport := hK.report offset memory [⟨offset, expected⟩] (.failed ⟨offset, expected⟩)
  rw [Tracker.observeAll_singleton] at hreport
  exact ⟨hcells, hreport⟩

theorem endOfInput (hK : K.Records grammar Known) :
    (K.faithful grammar).Covers (Action.endOfInput input : Action S Unit) := by
  intro offset memory run hrun hcells
  unfold Action.endOfInput at hrun
  split at hrun
  · exact hK.quiet (.matched ()) hrun hcells
  · exact hK.failing "EOF" hrun hcells

theorem lexeme (hK : K.Records grammar Known) (l : Lexeme α) :
    (K.faithful grammar).Covers (l.run input : Action S α) := by
  intro offset memory run hrun hcells
  unfold Lexeme.run at hrun
  split at hrun
  · exact hK.quiet (fun _ => .faulted .badOffset) hrun hcells
  · split at hrun
    · cases hrun
      exact ⟨hcells, hK.report offset memory [] _⟩
    · exact hK.failing l.expected hrun hcells

theorem custom (hK : K.Records grammar Known)
    (act : Text → Tracker → Nat → List Failure × Outcome α) :
    (K.faithful grammar).Covers (Action.custom input act : Action S α) := by
  rintro offset memory run ⟨⟩ hcells
  let failures := (act input memory.tracker offset).1
  have htracker : (memory.tracker.observeAll failures : List (Event S.Rule) × Tracker).2 =
      memory.tracker.reportAll failures := Tracker.observeAll_snd memory.tracker failures
  have hreport := hK.report offset memory failures (act input memory.tracker offset).2.shape
  rw [← htracker] at hreport
  exact ⟨hcells, hreport⟩

theorem probed (hK : K.Records grammar Known) {action : Action S α}
    (ha : (K.faithful grammar).Covers action) {name : String} (hname : Known name) :
    (K.faithful grammar).Covers (action.probed name) := by
  intro offset memory result hresult hcells
  obtain ⟨run, hrun, rfl⟩ := Option.map_eq_some_iff.mp hresult
  obtain ⟨hfaithful, hholds⟩ := ha hrun hcells
  have hdeparture : ((run.leaving name).after [.entered name offset]).events =
      .entered name offset :: (run.events ++ run.outcome.shape.departure name) := by
    rw [Run.events_leaving_after]
    cases run.outcome <;> rfl
  refine ⟨by simpa using hfaithful, ?_⟩
  rw [hdeparture, Run.outcome_after, Run.outcome_leaving, Run.memory_after, Run.memory_leaving]
  exact hK.enter name hname hholds

end Chronicle.Records

namespace Parser

/-- Probes by these names only. -/
def Probes (Known : String → Prop) : {α : Type} → Parser S α → Prop
  | _, lexeme _ | _, endOfInput | _, always _ | _, never _ | _, currentOffset => True
  | _, map _ p => p.Probes Known
  | _, bind p next => p.Probes Known ∧ ∀ value, (next value).Probes Known
  | _, zipWith _ p q => p.Probes Known ∧ q.Probes Known
  | _, orElse p q => p.Probes Known ∧ q.Probes Known
  | _, times p _ => p.Probes Known
  | _, lazy _ _ => True
  | _, probe name p => Known name ∧ p.Probes Known
  | _, custom _ | _, fault _ => True

theorem probes_of_forall {Known : String → Prop} (h : ∀ name, Known name) (p : Parser S α) :
    p.Probes Known := by
  induction p with
  | lexeme | endOfInput | always | never | currentOffset | lazy | custom | fault => trivial
  | map f p ih | times p bounds ih => exact ih
  | bind p next ihp ihn => exact ⟨ihp, ihn⟩
  | zipWith f p q ihp ihq | orElse p q ihp ihq => exact ⟨ihp, ihq⟩
  | probe name p ih => exact ⟨h name, ih⟩

end Parser

namespace Chronicle.Records

variable {K : Chronicle S} {Known : String → Prop}

theorem action (hK : K.Records grammar Known) {call : (α : Type) → Parser S α → Action S α}
    {fuel : Nat} (hcall : ∀ rule, (K.faithful grammar).Covers (call _ (grammar.body rule)))
    {p : Parser S α} (hp : p.Probes Known) :
    (K.faithful grammar).Covers (p.action grammar input call fuel) := by
  induction p with
  | lexeme l => exact hK.lexeme l
  | endOfInput => exact hK.endOfInput
  | always value => exact hK.quiet (.matched value)
  | never expected => exact hK.failing expected
  | currentOffset => exact hK.quiet fun offset => .matched offset offset
  | map f p ih => exact (ih hp).map f
  | bind p next ihp ihn => exact (ihp hp.1).bind fun value => ihn value (hp.2 value)
  | zipWith f p q ihp ihq => exact (ihp hp.1).bind fun a => (ihq hp.2).map (f a)
  | orElse p q ihp ihq => exact (ihp hp.1).orElse (ihq hp.2)
  | times p bounds ih => exact (ih hp).times bounds fuel
  | lazy slot rule => exact faithful_lazy (hcall rule) hK.node
  | probe name p ih => exact hK.probed (ih hp.2) hp.1
  | custom act => exact hK.custom act
  | fault cause => exact hK.quiet fun _ => .faulted cause

theorem runWithin (hK : K.Records grammar Known) (hg : ∀ rule, (grammar.body rule).Probes Known)
    (input : Text) (fuel : Nat) {p : Parser S α} (hp : p.Probes Known) :
    (K.faithful grammar).Covers (p.runWithin grammar input fuel) := by
  induction fuel generalizing α with
  | zero => exact covers_unfinished
  | succ fuel ih => exact hK.action (fun rule => ih (hg rule)) hp

end Chronicle.Records

/-- The tracker takes in all reports, and nothing else. -/
def Chronicle.tracked (S : Signature) : Chronicle S where
  holds _ memory _ events memory' :=
    memory'.tracker = memory.tracker.reportAll (Event.reports events)
  stay _ _ := rfl
  goOn := by
    intro offset next memory memory' memory'' outcome xs ys hxs hys
    rw [Event.reports_append, Tracker.reportAll_append, ← hxs, hys]
  goBack := by
    intro offset failure memory memory' memory'' outcome xs ys hxs hys
    rw [Event.reports_append, Tracker.reportAll_append, ← hxs, hys]

theorem Chronicle.tracked_records :
    (tracked S).Records grammar fun _ => True where
  report offset memory failures outcome := by
    show _ = memory.tracker.reportAll (Event.reports _)
    rw [Event.reports_observeAll]
  node := by
    intro offset memory slot rule outcome events memory' opening hbody
    show memory'.tracker = _
    rw [Event.reports_append, Event.reports_opening]
    exact hbody
  enter := by
    intro offset memory outcome events memory' name _ hrun
    have hdeparture : Event.reports (outcome.departure name : List (Event S.Rule)) = [] := by
      cases outcome <;> rfl
    show memory'.tracker = _
    rw [Event.reports_cons, Event.reports_append, hdeparture, List.append_nil]
    exact hrun

namespace Parser

variable {fuel offset : Nat} {memory : Memory S} {p : Parser S α} {run : Run S α}

/-- Whatever the parser, from faithful cells a run leaves such cells and a tracker that has taken in
what it reports. -/
theorem faithful_and_tracker_of_run (hcells : memory.cells.Faithful grammar)
    (hrun : p.runWithin grammar input fuel offset memory = some run) :
    run.memory.cells.Faithful grammar ∧
      run.memory.tracker = memory.tracker.reportAll (Event.reports run.events) := by
  have hall : ∀ {β : Type} (q : Parser S β), q.Probes fun _ => True :=
    probes_of_forall fun _ => trivial
  exact Chronicle.tracked_records.runWithin (fun rule => hall (grammar.body rule)) input fuel
    (hall p) hrun hcells

end Parser

namespace Event

variable {Rule : Type}

/-- How often the probe of this name was entered. -/
def entries (name : String) (events : List (Event Rule)) : Nat :=
  events.countP fun
    | entered probe _ => probe == name
    | _ => false

@[simp]
theorem entries_append (name : String) (xs ys : List (Event Rule)) :
    entries name (xs ++ ys) = entries name xs + entries name ys :=
  List.countP_append

@[simp]
theorem entries_observeAll (name : String) (t : Tracker) (failures : List Failure) :
    entries name (t.observeAll failures : List (Event Rule) × Tracker).1 = 0 := by
  induction failures generalizing t with
  | nil => rfl
  | cons failure failures ih =>
    unfold Tracker.observeAll Tracker.observe
    dsimp only
    rw [entries_append, ih]
    split <;> simp [entries]

@[simp]
theorem entries_departure (name probe : String) (outcome : Outcome Unit) :
    entries name (outcome.departure probe : List (Event Rule)) = 0 := by
  cases outcome <;> rfl

theorem entries_entered (name probe : String) (offset : Nat) (events : List (Event Rule)) :
    entries name (.entered probe offset :: events) =
      entries name events + if probe = name then 1 else 0 := by
  simp [entries, List.countP_cons]

theorem entries_opening (name : String) (cells : Cells S) (grammar : Grammar S) (slot : Nat)
    (rule : S.Rule) : entries name (cells.opening grammar slot rule).events = 0 := by
  rcases cells.opening_events grammar slot rule with h | h <;>
    simp [h, entries, List.countP_map, Function.comp_def]

end Event

/-- The probe of this name is never entered. -/
def Chronicle.unentered (S : Signature) (name : String) : Chronicle S where
  holds _ _ _ events _ := Event.entries name events = 0
  stay _ _ := rfl
  goOn := by
    intro offset next memory memory' memory'' outcome xs ys hxs hys
    rw [Event.entries_append, hxs, hys]
  goBack := by
    intro offset failure memory memory' memory'' outcome xs ys hxs hys
    rw [Event.entries_append, hxs, hys]

theorem Chronicle.unentered_records (name : String) :
    (unentered S name).Records grammar fun probe => probe ≠ name where
  report offset memory failures outcome := Event.entries_observeAll name memory.tracker failures
  node := by
    intro offset memory slot rule outcome events memory' opening hbody
    show Event.entries name (opening.events ++ events) = 0
    rw [Event.entries_append, Event.entries_opening]
    exact (Nat.zero_add _).trans hbody
  enter := by
    intro offset memory outcome events memory' probe hprobe hrun
    show Event.entries name (.entered probe offset :: (events ++ outcome.departure probe)) = 0
    rw [Event.entries_entered, Event.entries_append, Event.entries_departure, if_neg hprobe]
    exact hrun

end Descent
