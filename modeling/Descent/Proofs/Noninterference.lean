import Descent.Proofs.Coupling
import Descent.Proofs.FurthestFailure
import Descent.Proofs.Upkeep

/-!
# The tracker does not influence a run

Two runs of a plain parser that differ in their trackers and cells end alike and report the same
failures in the same order. So backtracking is sound although nothing is ever taken back from the
tracker.
-/

namespace Descent

variable {S : Signature}

namespace Coupling

variable {α : Type} {grammar grammar' : Grammar S} {C : Coupling S S}

/-- Cells only have to be faithful, and events that report nothing do not count. -/
structure OnReports (C : Coupling S S) (grammar grammar' : Grammar S) : Prop where
  cells : C.cells = fun cells cells' => cells.Faithful grammar ∧ cells'.Faithful grammar'
  events : ∀ {xs ys}, Event.reports xs = [] → Event.reports ys = [] → C.events xs ys

namespace OnReports

variable {action action' : Action S α}

theorem flip (hC : C.OnReports grammar grammar') : C.flip.OnReports grammar' grammar where
  cells := by
    funext cells cells'
    exact (congrFun (congrFun hC.cells cells') cells).trans (propext and_comm)
  events hx hy := hC.events hy hx

theorem probed_left (hC : C.OnReports grammar grammar') (ha : C.Simulates action action')
    (name : String) : C.Simulates (action.probed name) action' := by
  refine ha.probed_left ?_ name
  intro event hevent
  cases event <;> cases hevent <;> exact hC.events rfl rfl

theorem probed_right (hC : C.OnReports grammar grammar') (ha : C.Simulates action action')
    (name : String) : C.Simulates action (action'.probed name) := by
  refine ha.probed_right ?_ name
  intro event hevent
  cases event <;> cases hevent <;> exact hC.events rfl rfl

/-- A lazy node goes on as the body of its rule would in its place. -/
theorem lazy_left (hC : C.OnReports grammar grammar')
    {call : (α : Type) → Parser S α → Action S α} {rule : S.Rule}
    {action' : Action S (S.Result rule)}
    (hbody : C.Simulates (call _ (grammar.body rule)) action') (slot : Nat) :
    C.Simulates (.lazy grammar call slot rule) action' := by
  intro offset offset' memory memory' result hoffset hmemory hresult
  have hcells := hmemory.cells
  rw [hC.cells] at hcells
  rw [Action.lazy_eq] at hresult
  obtain ⟨run, hrun, rfl⟩ := Option.map_eq_some_iff.mp hresult
  obtain ⟨hopened, hinner⟩ := hcells.1.opening slot rule
  rw [hopened] at hrun
  have hstart : C.Memories
      { memory with cells := (memory.cells.opening grammar slot rule).inner } memory' :=
    ⟨hmemory.trackers, hC.cells ▸ ⟨hinner, hcells.2⟩⟩
  obtain ⟨run', hrun', hout, hevents, htrackers, hleft⟩ := hbody hoffset hstart hrun
  rw [hC.cells] at hleft
  refine ⟨run', hrun', hout, ?_, htrackers, hC.cells ▸ ⟨?_, hleft.2⟩⟩
  · have hopening := hC.events (Event.reports_opening memory.cells grammar slot rule)
      (rfl : Event.reports ([] : List (Event S.Rule)) = [])
    exact C.events_append hopening hevents
  · exact hcells.1.closing hleft.1 slot rule

theorem lazy_right (hC : C.OnReports grammar grammar')
    {call' : (α : Type) → Parser S α → Action S α} {rule : S.Rule}
    {action : Action S (S.Result rule)}
    (hbody : C.Simulates action (call' _ (grammar'.body rule))) (slot : Nat) :
    C.Simulates action (.lazy grammar' call' slot rule) := by
  intro offset offset' memory memory' run hoffset hmemory hrun
  have hcells := hmemory.cells
  rw [hC.cells] at hcells
  obtain ⟨hopened, hinner⟩ := hcells.2.opening slot rule
  have hstart : C.Memories memory
      { memory' with cells := (memory'.cells.opening grammar' slot rule).inner } :=
    ⟨hmemory.trackers, hC.cells ▸ ⟨hcells.1, hinner⟩⟩
  obtain ⟨run', hrun', hout, hevents, htrackers, hleft⟩ := hbody hoffset hstart hrun
  rw [hC.cells] at hleft
  rw [← hopened] at hrun'
  refine ⟨run'.closing memory'.cells slot (memory'.cells.opening grammar' slot rule), ?_, hout,
    ?_, htrackers, hC.cells ▸ ⟨hleft.1, ?_⟩⟩
  · rw [Action.lazy_eq]
    exact Option.map_eq_some_iff.mpr ⟨run', hrun', rfl⟩
  · have hopening := hC.events (rfl : Event.reports ([] : List (Event S.Rule)) = [])
      (Event.reports_opening memory'.cells grammar' slot rule)
    exact C.events_append hopening hevents
  · exact hcells.2.closing hleft.2 slot rule

end OnReports

/-- The same offsets and reports. The trackers are free, the cells faithful. -/
def reports (grammar grammar' : Grammar S) : Coupling S S where
  offsets := Eq
  trackers _ _ := True
  cells cells cells' := cells.Faithful grammar ∧ cells'.Faithful grammar'
  events xs ys := Event.reports xs = Event.reports ys
  events_nil := rfl
  events_append := by
    intro xs xs' ys ys' hx hy
    rw [Event.reports_append, Event.reports_append, hx, hy]

theorem reports_observing : (reports grammar grammar').Observing := by
  rintro offset _ t t' expected rfl -
  refine ⟨?_, trivial⟩
  exact (Event.reports_observe t _).trans (Event.reports_observe t' _).symm

theorem reports_onReports : (reports grammar grammar').OnReports grammar grammar' where
  cells := rfl
  events hx hy := hx.trans hy.symm

end Coupling

namespace Parser

variable {α : Type} {grammar : Grammar S} {input : Text}

theorem simulates_action {call : (α : Type) → Parser S α → Action S α} (fuel : Nat)
    (hcall : ∀ rule, (Coupling.reports grammar grammar).Simulates (call _ (grammar.body rule))
      (call _ (grammar.body rule)))
    {p : Parser S α} (hp : p.IsPlain) :
    (Coupling.reports grammar grammar).Simulates (p.action grammar input call fuel)
      (p.action grammar input call fuel) := by
  induction p with
  | lexeme l => exact Coupling.simulates_lexeme (.of_eq rfl input) Coupling.reports_observing l
  | endOfInput => exact Coupling.simulates_endOfInput (.of_eq rfl input) Coupling.reports_observing
  | always value => exact Coupling.simulates_yield value
  | never expected => exact Coupling.simulates_failing Coupling.reports_observing expected
  | currentOffset => exact Coupling.simulates_currentOffset rfl
  | map f p ih => exact (ih hp).map f
  | bind p next ihp ihn => exact (ihp hp.1).bind fun value => ihn value (hp.2 value)
  | zipWith f p q ihp ihq => exact (ihp hp.1).bind fun a => (ihq hp.2).map (f a)
  | orElse p q ihp ihq => exact (ihp hp.1).orElse (ihq hp.2)
  | times p bounds ih => exact (ih hp).times bounds (Nat.le_refl fuel)
  | lazy slot rule =>
    have hleft := Coupling.reports_onReports.lazy_left (hcall rule) slot
    exact Coupling.reports_onReports.lazy_right hleft slot
  | probe name p ih =>
    have hleft := Coupling.reports_onReports.probed_left (ih hp) name
    exact Coupling.reports_onReports.probed_right hleft name
  | custom act => exact hp.elim
  | fault cause => exact Coupling.simulates_faulting cause

theorem simulates_runWithin (hg : grammar.IsPlain) (fuel : Nat) {p : Parser S α} (hp : p.IsPlain) :
    (Coupling.reports grammar grammar).Simulates (p.runWithin grammar input fuel)
      (p.runWithin grammar input fuel) := by
  induction fuel generalizing α with
  | zero => exact Coupling.simulates_unfinished
  | succ fuel ih => exact simulates_action fuel (fun rule => ih (hg rule)) hp

/-- From any two trackers and any faithful cells, the runs of a plain parser at an offset are both
unfinished, or end alike after the same reports; each tracker takes in just these. -/
theorem runWithin_independent (hg : grammar.IsPlain) {p : Parser S α} (hp : p.IsPlain)
    (input : Text) (fuel offset : Nat) {cells cells' : Cells S} (hcells : cells.Faithful grammar)
    (hcells' : cells'.Faithful grammar) (t t' : Tracker) :
    p.runWithin grammar input fuel offset ⟨t, cells⟩ = none ∧
        p.runWithin grammar input fuel offset ⟨t', cells'⟩ = none ∨
      ∃ run run', p.runWithin grammar input fuel offset ⟨t, cells⟩ = some run ∧
        p.runWithin grammar input fuel offset ⟨t', cells'⟩ = some run' ∧
        run.outcome = run'.outcome ∧
        Event.reports run.events = Event.reports run'.events ∧
        run.memory.tracker = t.reportAll (Event.reports run.events) ∧
        run'.memory.tracker = t'.reportAll (Event.reports run.events) := by
  have hsim : (Coupling.reports grammar grammar).Simulates (p.runWithin grammar input fuel)
      (p.runWithin grammar input fuel) := simulates_runWithin hg fuel hp
  have hmemory : (Coupling.reports grammar grammar).Memories ⟨t, cells⟩ ⟨t', cells'⟩ :=
    ⟨trivial, hcells, hcells'⟩
  have hback : (Coupling.reports grammar grammar).Memories ⟨t', cells'⟩ ⟨t, cells⟩ :=
    ⟨trivial, hcells', hcells⟩
  cases hrun : p.runWithin grammar input fuel offset ⟨t, cells⟩ with
  | none =>
    refine .inl ⟨rfl, ?_⟩
    by_contra hsome
    obtain ⟨run', hrun'⟩ := Option.ne_none_iff_exists'.mp hsome
    obtain ⟨run, hrun'', -⟩ := hsim rfl hback hrun'
    cases hrun.symm.trans hrun''
  | some run =>
    obtain ⟨run', hrun', hruns⟩ := hsim rfl hmemory hrun
    have hcourse := (charted_runWithin hg fuel hp hrun hcells).2
    have hcourse' := (charted_runWithin hg fuel hp hrun' hcells').2
    refine .inr ⟨run, run', rfl, hrun', hruns.outcomes.eq rfl, hruns.events, hcourse.after_eq, ?_⟩
    rw [show Event.reports run.events = Event.reports run'.events from hruns.events]
    exact hcourse'.after_eq

end Parser

/-- A fresh start, and one after a report beyond the input with the first cell filled. -/
theorem Nested.nest_independent :
    ∃ run run', nest.runWithin Nested.grammar "é()".toList 9 2 ⟨.empty, .empty⟩ = some run ∧
      nest.runWithin Nested.grammar "é()".toList 9 2
        ⟨⟨7, some "digit"⟩, Cells.empty.put 0 () nest .empty⟩ = some run' ∧
      run.outcome = .matched 1 4 ∧ run'.outcome = .matched 1 4 ∧
      run'.memory.tracker = Tracker.reportAll ⟨7, some "digit"⟩ (Event.reports run.events) := by
  have houtcome : ((nest.runWithin Nested.grammar "é()".toList 9 2 ⟨.empty, .empty⟩).map fun run =>
      run.outcome) = some (.matched 1 4) := by
    decide +kernel
  obtain ⟨first, hfirst, hmatched⟩ := Option.map_eq_some_iff.mp houtcome
  rcases Parser.runWithin_independent isPlain_grammar isPlain_nest
      "é()".toList 9 2 Cells.faithful_empty faithful_put_nest .empty ⟨7, some "digit"⟩ with
    ⟨hnone, -⟩ | ⟨run, run', hrun, hrun', hout, -, -, htracker⟩
  · cases hnone.symm.trans hfirst
  · obtain rfl : first = run := Option.some.inj (hfirst.symm.trans hrun)
    exact ⟨first, run', hfirst, hrun', hmatched, hout ▸ hmatched, htracker⟩

end Descent
