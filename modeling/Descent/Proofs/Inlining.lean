import Descent.Proofs.Fuel
import Descent.Proofs.Watched

/-!
# Inlining lazy nodes

A lazy node stands for the body of its rule. Putting the body in its place, for any choice of nodes
in a parser and in the bodies of rules, changes no outcome, no report and no tracker, whatever the
custom functions do and whatever the cells already hold. Only the nesting of rules becomes less
deep, so less fuel is needed.
-/

namespace Descent

variable {S : Signature} {α : Type} {grammar grammar' : Grammar S} {input : Text}

/-- The bodies of rules in the place of the lazy nodes that are chosen, by their slots and rules. -/
def Parser.inlined (grammar : Grammar S) (chosen : Nat → S.Rule → Bool) :
    {α : Type} → Parser S α → Parser S α
  | _, .lexeme l => .lexeme l
  | _, .endOfInput => .endOfInput
  | _, .always value => .always value
  | _, .never expected => .never expected
  | _, .currentOffset => .currentOffset
  | _, .map f p => .map f (p.inlined grammar chosen)
  | _, .bind p next =>
    .bind (p.inlined grammar chosen) fun value => (next value).inlined grammar chosen
  | _, .zipWith f p q => .zipWith f (p.inlined grammar chosen) (q.inlined grammar chosen)
  | _, .orElse p q => .orElse (p.inlined grammar chosen) (q.inlined grammar chosen)
  | _, .times p bounds => .times (p.inlined grammar chosen) bounds
  | _, .lazy slot rule => if chosen slot rule then grammar.body rule else .lazy slot rule
  | _, .probe name p => .probe name (p.inlined grammar chosen)
  | _, .custom act => .custom act
  | _, .fault cause => .fault cause

/-- Each body may have a choice of its own. -/
def Grammar.inlined (grammar : Grammar S) (chosen : S.Rule → Nat → S.Rule → Bool) : Grammar S where
  body rule := (grammar.body rule).inlined grammar (chosen rule)
  foreign := grammar.foreign

theorem Parser.inlined_none (grammar : Grammar S) (p : Parser S α) :
    p.inlined grammar (fun _ _ => false) = p := by
  induction p with
  | lexeme | endOfInput | always | never | currentOffset | lazy | custom | fault => rfl
  | map f p ih | times p bounds ih | probe name p ih => rw [inlined, ih]
  | bind p next ihp ihn =>
    rw [inlined, ihp]
    exact congrArg (bind p) (funext ihn)
  | zipWith f p q ihp ihq | orElse p q ihp ihq => rw [inlined, ihp, ihq]

theorem Grammar.inlined_none (grammar : Grammar S) :
    grammar.inlined (fun _ _ _ => false) = grammar := by
  unfold inlined
  congr 1
  funext rule
  exact Parser.inlined_none grammar (grammar.body rule)

/-- How a run ended, what it reported, and the tracker that it left. -/
def Run.ending (run : Run S α) : Outcome α × List Failure × Tracker :=
  (run.outcome, Event.reports run.events, run.memory.tracker)

namespace Coupling

/-- The same offsets, trackers and reports. The cells are faithful. -/
def exact (grammar grammar' : Grammar S) : Coupling S S where
  offsets := Eq
  trackers := Eq
  cells cells cells' := cells.Faithful grammar ∧ cells'.Faithful grammar'
  events xs ys := Event.reports xs = Event.reports ys
  events_nil := (reports grammar grammar').events_nil
  events_append := (reports grammar grammar').events_append

theorem exact_observing : (exact grammar grammar').Observing := by
  rintro offset _ t _ expected rfl rfl
  exact ⟨rfl, rfl⟩

theorem exact_flip : (exact grammar grammar').flip = exact grammar' grammar := by
  unfold flip exact
  congr 1
  · funext offset offset'
    exact propext eq_comm
  · funext t t'
    exact propext eq_comm
  · funext cells cells'
    exact propext and_comm
  · funext xs ys
    exact propext eq_comm

theorem exact_onReports : (exact grammar grammar').OnReports grammar grammar' where
  cells := rfl
  events hx hy := hx.trans hy.symm

theorem Runs.ending_eq {run run' : Run S α} (h : (exact grammar grammar').Runs run run') :
    run.ending = run'.ending := by
  have houtcome : run.outcome = run'.outcome := h.outcomes.eq rfl
  have hreports : Event.reports run.events = Event.reports run'.events := h.events
  have htracker : run.memory.tracker = run'.memory.tracker := h.memories.trackers
  unfold Run.ending
  rw [houtcome, hreports, htracker]

theorem Simulates.ending_eq {action action' : Action S α}
    (h : (exact grammar grammar').Simulates action action') {offset : Nat} {tracker : Tracker}
    {cells cells' : Cells S} (hcells : cells.Faithful grammar) (hcells' : cells'.Faithful grammar')
    {ending : Outcome α × List Failure × Tracker}
    (hending : (action offset ⟨tracker, cells⟩).map Run.ending = some ending) :
    (action' offset ⟨tracker, cells'⟩).map Run.ending = some ending := by
  obtain ⟨run, hrun, rfl⟩ := Option.map_eq_some_iff.mp hending
  have hmemory : (exact grammar grammar').Memories ⟨tracker, cells⟩ ⟨tracker, cells'⟩ :=
    ⟨rfl, hcells, hcells'⟩
  obtain ⟨run', hrun', hruns⟩ := h rfl hmemory hrun
  exact Option.map_eq_some_iff.mpr ⟨run', hrun', hruns.ending_eq.symm⟩

variable {S' : Signature} {C : Coupling S S'}

theorem Observing.observeAll (hC : C.Observing) (hoffsets : C.offsets = Eq) {t t' : Tracker}
    (ht : C.trackers t t') (failures : List Failure) :
    C.events (t.observeAll failures).1 (t'.observeAll failures).1 ∧
      C.trackers (t.reportAll failures) (t'.reportAll failures) := by
  induction failures generalizing t t' with
  | nil => exact ⟨C.events_nil, ht⟩
  | cons failure failures ih =>
    obtain ⟨hevents, hreport⟩ := hC failure.expected (hoffsets ▸ rfl) ht
    obtain ⟨hmore, hreports⟩ := ih hreport
    exact ⟨C.events_append hevents hmore, hreports⟩

/-- Custom functions see the tracker, so it has to be the same. -/
theorem simulates_custom (hC : C.Observing) (hoffsets : C.offsets = Eq)
    (htrackers : C.trackers = Eq) (act : Act α) :
    C.Simulates (Action.custom input act) (Action.custom input act) := by
  intro offset offset' memory memory' run hoffset hmemory hrun
  obtain rfl : offset = offset' := hoffsets ▸ hoffset
  have htracker : memory.tracker = memory'.tracker := htrackers ▸ hmemory.trackers
  cases hrun
  obtain ⟨hevents, hreports⟩ :=
    hC.observeAll hoffsets hmemory.trackers (act input memory.tracker offset).1
  refine ⟨_, rfl, ?_, ?_, ?_, hmemory.cells⟩
  · rw [← htracker]
    cases (act input memory.tracker offset).2 with
    | matched value next => exact .matched value (hoffsets ▸ rfl)
    | failed failure => exact .failed (hoffsets ▸ rfl) rfl
    | faulted fault => exact .faulted fault
  · rw [← htracker]
    rwa [← htracker] at hevents
  · rw [← htracker, Tracker.observeAll_snd, Tracker.observeAll_snd]
    rwa [← htracker] at hreports

theorem Simulates.mono_right {action : Action S α} {action' action'' : Action S' α}
    (h : C.Simulates action action') (hmore : (identity S').Simulates action' action'') :
    C.Simulates action action'' := by
  intro offset offset' memory memory' run hoffset hmemory hrun
  obtain ⟨run', hrun', hruns⟩ := h hoffset hmemory hrun
  exact ⟨run', identity_simulates_iff.mp hmore offset' memory' run' hrun', hruns⟩

end Coupling

namespace Parser

section Action

variable {call call' : (α : Type) → Parser S α → Action S α} {fuel fuel' : Nat}

/-- Two choices of nodes only have to be compared at the nodes. -/
theorem exact_simulates_action {body : Grammar S} {chosen chosen' : Nat → S.Rule → Bool}
    (hfuel : fuel ≤ fuel')
    (hlazy : ∀ slot rule, (Coupling.exact grammar grammar').Simulates
      (((lazy slot rule).inlined body chosen).action grammar input call fuel)
      (((lazy slot rule).inlined body chosen').action grammar' input call' fuel'))
    (p : Parser S α) :
    (Coupling.exact grammar grammar').Simulates
      ((p.inlined body chosen).action grammar input call fuel)
      ((p.inlined body chosen').action grammar' input call' fuel') := by
  have hC : (Coupling.exact grammar grammar').OnReports grammar grammar' :=
    Coupling.exact_onReports
  have hobserving : (Coupling.exact grammar grammar').Observing := Coupling.exact_observing
  induction p with
  | lexeme l => exact Coupling.simulates_lexeme (.of_eq rfl input) hobserving l
  | endOfInput => exact Coupling.simulates_endOfInput (.of_eq rfl input) hobserving
  | always value => exact Coupling.simulates_yield value
  | never expected => exact Coupling.simulates_failing hobserving expected
  | currentOffset => exact Coupling.simulates_currentOffset rfl
  | map f p ih => exact ih.map f
  | bind p next ihp ihn => exact ihp.bind ihn
  | zipWith f p q ihp ihq => exact ihp.bind fun a => ihq.map (f a)
  | orElse p q ihp ihq => exact ihp.orElse ihq
  | times p bounds ih => exact ih.times bounds hfuel
  | lazy slot rule => exact hlazy slot rule
  | probe name p ih => exact hC.probed_right (hC.probed_left ih name) name
  | custom act => exact Coupling.simulates_custom hobserving rfl rfl act
  | fault cause => exact Coupling.simulates_faulting cause

theorem simulates_action_inlined (chosen : Nat → S.Rule → Bool) (hfuel : fuel ≤ fuel')
    (hcall : ∀ rule, (Coupling.exact grammar grammar').Simulates (call _ (grammar.body rule))
      (call' _ (grammar'.body rule)))
    (hchosen : ∀ slot rule, chosen slot rule = true →
      (Coupling.exact grammar grammar').Simulates (call _ (grammar.body rule))
        ((grammar.body rule).action grammar' input call' fuel'))
    (p : Parser S α) :
    (Coupling.exact grammar grammar').Simulates (p.action grammar input call fuel)
      ((p.inlined grammar chosen).action grammar' input call' fuel') := by
  have hC : (Coupling.exact grammar grammar').OnReports grammar grammar' :=
    Coupling.exact_onReports
  have hsim : (Coupling.exact grammar grammar').Simulates
      ((p.inlined grammar fun _ _ => false).action grammar input call fuel)
      ((p.inlined grammar chosen).action grammar' input call' fuel') := by
    apply exact_simulates_action hfuel
    intro slot rule
    rw [inlined_none, inlined]
    by_cases h : chosen slot rule = true
    · rw [if_pos h]
      exact hC.lazy_left (hchosen slot rule h) slot
    · rw [if_neg h]
      exact hC.lazy_right (hC.lazy_left (hcall rule) slot) slot
  rwa [inlined_none] at hsim

theorem inlined_simulates_action (chosen : Nat → S.Rule → Bool) (hfuel : fuel' ≤ fuel)
    (hcall : ∀ rule, (Coupling.exact grammar' grammar).Simulates (call' _ (grammar'.body rule))
      (call _ (grammar.body rule)))
    (hchosen : ∀ slot rule, chosen slot rule = true →
      (Coupling.exact grammar' grammar).Simulates
        ((grammar.body rule).action grammar' input call' fuel') (call _ (grammar.body rule)))
    (p : Parser S α) :
    (Coupling.exact grammar' grammar).Simulates
      ((p.inlined grammar chosen).action grammar' input call' fuel')
      (p.action grammar input call fuel) := by
  have hC : (Coupling.exact grammar' grammar).OnReports grammar' grammar :=
    Coupling.exact_onReports
  have hsim : (Coupling.exact grammar' grammar).Simulates
      ((p.inlined grammar chosen).action grammar' input call' fuel')
      ((p.inlined grammar fun _ _ => false).action grammar input call fuel) := by
    apply exact_simulates_action hfuel
    intro slot rule
    rw [inlined_none, inlined]
    by_cases h : chosen slot rule = true
    · rw [if_pos h]
      exact hC.lazy_right (hchosen slot rule h) slot
    · rw [if_neg h]
      exact hC.lazy_right (hC.lazy_left (hcall rule) slot) slot
  rwa [inlined_none] at hsim

end Action

variable (inside : S.Rule → Nat → S.Rule → Bool)

theorem simulates_runWithin_inlined (chosen : Nat → S.Rule → Bool) (fuel : Nat)
    (p : Parser S α) :
    (Coupling.exact grammar (grammar.inlined inside)).Simulates (p.runWithin grammar input fuel)
      ((p.inlined grammar chosen).runWithin (grammar.inlined inside) input fuel) := by
  induction fuel generalizing α chosen with
  | zero => exact Coupling.simulates_unfinished
  | succ fuel ih =>
    refine simulates_action_inlined chosen (Nat.le_refl fuel) ?_ ?_ p
    · intro rule
      exact ih (inside rule) (grammar.body rule)
    · intro slot rule _
      -- The inlined body has one more level of rules at its disposal than the lazy node gave it.
      have hbody := ih (fun _ _ => false) (grammar.body rule)
      rw [inlined_none] at hbody
      exact hbody.mono_right (identity_simulates_runWithin (Nat.le_succ fuel) (grammar.body rule))

/-- Every other level of rules may be missing where bodies have been put in. -/
theorem inlined_simulates_runWithin (chosen : Nat → S.Rule → Bool) (fuel : Nat)
    (p : Parser S α) :
    (Coupling.exact (grammar.inlined inside) grammar).Simulates
      ((p.inlined grammar chosen).runWithin (grammar.inlined inside) input fuel)
      (p.runWithin grammar input (2 * fuel)) := by
  induction fuel generalizing α chosen with
  | zero => exact Coupling.simulates_unfinished
  | succ fuel ih =>
    have hcall : ∀ rule, (Coupling.exact (grammar.inlined inside) grammar).Simulates
        (((grammar.inlined inside).body rule).runWithin (grammar.inlined inside) input fuel)
        ((grammar.body rule).runWithin grammar input (2 * fuel)) :=
      fun rule => ih (inside rule) (grammar.body rule)
    have hmore : 2 * fuel ≤ 2 * fuel + 1 := Nat.le_succ (2 * fuel)
    have hless : fuel ≤ 2 * fuel := Nat.le_mul_of_pos_left fuel Nat.two_pos
    have htwice : 2 * (fuel + 1) = 2 * fuel + 1 + 1 := rfl
    rw [htwice]
    refine inlined_simulates_action chosen (Nat.le_trans hless hmore) ?_ ?_ p
    · intro rule
      exact (hcall rule).mono_right (identity_simulates_runWithin hmore (grammar.body rule))
    · intro slot rule _
      have hbody : (Coupling.exact (grammar.inlined inside) grammar).Simulates
          (((grammar.body rule).inlined grammar fun _ _ => false).action (grammar.inlined inside)
            input (fun _ q => q.runWithin (grammar.inlined inside) input fuel) fuel)
          ((grammar.body rule).runWithin grammar input (2 * fuel + 1)) :=
        inlined_simulates_action (fun _ _ => false) hless hcall (by simp) (grammar.body rule)
      rwa [inlined_none] at hbody

/-- The cells only save the construction of bodies: whether they are filled makes no difference. -/
theorem runWithin_cases (p : Parser S α) (input : Text) (fuel offset : Nat) (tracker : Tracker)
    {cells cells' : Cells S} (hcells : cells.Faithful grammar)
    (hcells' : cells'.Faithful grammar) :
    p.runWithin grammar input fuel offset ⟨tracker, cells⟩ = none ∧
        p.runWithin grammar input fuel offset ⟨tracker, cells'⟩ = none ∨
      ∃ run run', p.runWithin grammar input fuel offset ⟨tracker, cells⟩ = some run ∧
        p.runWithin grammar input fuel offset ⟨tracker, cells'⟩ = some run' ∧
        (Coupling.exact grammar grammar).Runs run run' := by
  have hsim : (Coupling.exact grammar (grammar.inlined fun _ _ _ => false)).Simulates
      (p.runWithin grammar input fuel)
      ((p.inlined grammar fun _ _ => false).runWithin (grammar.inlined fun _ _ _ => false) input
        fuel) := simulates_runWithin_inlined _ _ fuel p
  rw [inlined_none, Grammar.inlined_none] at hsim
  have hback : (Coupling.exact grammar grammar).flip.Simulates
      (p.runWithin grammar input fuel) (p.runWithin grammar input fuel) := by
    rw [Coupling.exact_flip]
    exact hsim
  exact hsim.cases hback rfl ⟨rfl, hcells, hcells'⟩

/-- The runs that end do so alike if the bodies of rules are in the place of some lazy nodes. -/
theorem runWithin_inlined_iff (chosen : Nat → S.Rule → Bool) (p : Parser S α) (input : Text)
    (offset : Nat) (tracker : Tracker) {cells cells' : Cells S}
    (hcells : cells.Faithful grammar) (hcells' : cells'.Faithful (grammar.inlined inside))
    (ending : Outcome α × List Failure × Tracker) :
    (∃ fuel, (p.runWithin grammar input fuel offset ⟨tracker, cells⟩).map Run.ending =
        some ending) ↔
      ∃ fuel, ((p.inlined grammar chosen).runWithin (grammar.inlined inside) input fuel offset
        ⟨tracker, cells'⟩).map Run.ending = some ending := by
  constructor
  · rintro ⟨fuel, hfuel⟩
    refine ⟨fuel, ?_⟩
    exact (simulates_runWithin_inlined inside chosen fuel p).ending_eq hcells hcells' hfuel
  · rintro ⟨fuel, hfuel⟩
    refine ⟨2 * fuel, ?_⟩
    exact (inlined_simulates_runWithin inside chosen fuel p).ending_eq hcells' hcells hfuel

end Parser

end Descent
