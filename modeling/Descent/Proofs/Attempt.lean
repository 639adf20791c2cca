import Descent.Proofs.Repetition
import Descent.Proofs.Reporting

/-!
# Attempts

What a parser makes of an offset: how it ends there and which failures it reports on the way. For a
plain parser this is settled by the offset alone. Given enough fuel, every run makes the same
attempt, whatever the tracker and the cells that it starts with.
-/

namespace Descent

variable {S : Signature} {α : Type}

/-- The same outcome after the same reports. -/
def Run.Alike (run run' : Run S α) : Prop :=
  run.outcome = run'.outcome ∧ Event.reports run.events = Event.reports run'.events

namespace Parser

variable {grammar : Grammar S} {input : Text} {p : Parser S α} {fuel offset : Nat}
  {outcome outcome' : Outcome α} {reports reports' : List Failure}

/-- Some run of the parser at the offset ends like this and reports these failures. -/
def Attempts (grammar : Grammar S) (input : Text) (p : Parser S α) (offset : Nat)
    (outcome : Outcome α) (reports : List Failure) : Prop :=
  ∃ fuel memory run, memory.cells.Faithful grammar ∧
    p.runWithin grammar input fuel offset memory = some run ∧ run.outcome = outcome ∧
      Event.reports run.events = reports

theorem attempts_of_run {memory : Memory S} {run : Run S α}
    (hcells : memory.cells.Faithful grammar)
    (hrun : p.runWithin grammar input fuel offset memory = some run) :
    p.Attempts grammar input offset run.outcome (Event.reports run.events) :=
  ⟨fuel, memory, run, hcells, hrun, rfl, rfl⟩

theorem answers_of_run {memory : Memory S} {run : Run S α} (hcells : memory.cells.Faithful grammar)
    (hrun : p.runWithin grammar input fuel offset memory = some run) :
    p.Answers grammar input offset run.outcome :=
  ⟨fuel, memory, run, hcells, hrun, rfl⟩

theorem answers_iff :
    p.Answers grammar input offset outcome ↔
      ∃ reports, p.Attempts grammar input offset outcome reports := by
  constructor
  · rintro ⟨fuel, memory, run, hcells, hrun, rfl⟩
    exact ⟨_, attempts_of_run hcells hrun⟩
  · rintro ⟨reports, fuel, memory, run, hcells, hrun, rfl, -⟩
    exact answers_of_run hcells hrun

/-- With the same fuel, the runs from any two memories are both unfinished or alike. -/
theorem IsPlain.rel_alike (hg : grammar.IsPlain) (hp : p.IsPlain) (input : Text)
    (fuel offset : Nat) {memory memory' : Memory S} (hcells : memory.cells.Faithful grammar)
    (hcells' : memory'.cells.Faithful grammar) :
    Option.Rel Run.Alike (p.runWithin grammar input fuel offset memory)
      (p.runWithin grammar input fuel offset memory') := by
  have hsim : (Coupling.reports grammar grammar).Simulates (p.runWithin grammar input fuel)
      (p.runWithin grammar input fuel) := simulates_runWithin hg fuel hp
  cases hrun : p.runWithin grammar input fuel offset memory with
  | some run =>
    obtain ⟨run', hrun', hruns⟩ := hsim rfl ⟨trivial, hcells, hcells'⟩ hrun
    rw [hrun']
    exact .some ⟨hruns.outcomes.eq rfl, hruns.events⟩
  | none =>
    cases hrun' : p.runWithin grammar input fuel offset memory' with
    | none => exact .none
    | some run' =>
      obtain ⟨run, hsome, -⟩ := hsim rfl ⟨trivial, hcells', hcells⟩ hrun'
      cases hrun.symm.trans hsome

theorem IsPlain.exists_alike (hg : grammar.IsPlain) (hp : p.IsPlain) {memory memory' : Memory S}
    (hcells : memory.cells.Faithful grammar) (hcells' : memory'.cells.Faithful grammar)
    {run : Run S α} (hrun : p.runWithin grammar input fuel offset memory = some run) :
    ∃ run', p.runWithin grammar input fuel offset memory' = some run' ∧ run.Alike run' := by
  have halike := hp.rel_alike hg input fuel offset hcells hcells'
  rw [hrun] at halike
  generalize p.runWithin grammar input fuel offset memory' = result at halike
  cases halike with
  | some hsame => exact ⟨_, rfl, hsame⟩

/-- What a plain parser attempts, it attempts from every memory, given enough fuel. -/
theorem Attempts.exists_run (hg : grammar.IsPlain) (hp : p.IsPlain)
    (h : p.Attempts grammar input offset outcome reports) :
    ∃ enough, ∀ fuel, enough ≤ fuel → ∀ memory : Memory S, memory.cells.Faithful grammar →
      ∃ run, p.runWithin grammar input fuel offset memory = some run ∧ run.outcome = outcome ∧
        Event.reports run.events = reports := by
  obtain ⟨enough, first, run, hfirst, hrun, rfl, rfl⟩ := h
  refine ⟨enough, fun fuel hfuel memory hcells => ?_⟩
  obtain ⟨run', hrun', hout, hreports⟩ :=
    hp.exists_alike hg hfirst hcells (runWithin_mono hfuel hrun)
  exact ⟨run', hrun', hout.symm, hreports.symm⟩

theorem Attempts.unique (hg : grammar.IsPlain) (hp : p.IsPlain)
    (h : p.Attempts grammar input offset outcome reports)
    (h' : p.Attempts grammar input offset outcome' reports') :
    outcome = outcome' ∧ reports = reports' := by
  obtain ⟨enough, hall⟩ := h.exists_run hg hp
  obtain ⟨fuel, memory, run', hcells, hrun', rfl, rfl⟩ := h'
  obtain ⟨run, hrun, rfl, rfl⟩ := hall (max enough fuel) (Nat.le_max_left _ _) memory hcells
  cases runWithin_fuel_unique hrun hrun'
  exact ⟨rfl, rfl⟩

theorem Answers.exists_run (hg : grammar.IsPlain) (hp : p.IsPlain)
    (h : p.Answers grammar input offset outcome) :
    ∃ enough, ∀ fuel, enough ≤ fuel → ∀ memory : Memory S, memory.cells.Faithful grammar →
      ∃ run, p.runWithin grammar input fuel offset memory = some run ∧ run.outcome = outcome := by
  obtain ⟨reports, hattempts⟩ := answers_iff.mp h
  obtain ⟨enough, hall⟩ := hattempts.exists_run hg hp
  refine ⟨enough, fun fuel hfuel memory hcells => ?_⟩
  obtain ⟨run, hrun, hout, -⟩ := hall fuel hfuel memory hcells
  exact ⟨run, hrun, hout⟩

/-- The last thing that a failing run reports is the failure that it ends with. -/
theorem getLast?_reports_of_failed (hg : grammar.IsPlain) (hp : p.IsPlain) {memory : Memory S}
    {run : Run S α} (hcells : memory.cells.Faithful grammar)
    (hrun : p.runWithin grammar input fuel offset memory = some run) {failure : Failure}
    (hfailed : run.outcome = .failed failure) :
    (Event.reports run.events).getLast? = some failure := by
  have hcourse := (charted_runWithin hg fuel hp hrun hcells).2
  rw [hfailed] at hcourse
  exact hcourse.getLast?_reports rfl

end Parser

end Descent
