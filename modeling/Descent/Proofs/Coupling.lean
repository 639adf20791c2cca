import Descent.Proofs.Cells

/-!
# Coupled runs

A coupling relates the offsets, trackers, cells and events of two runs. One action simulates
another if every finished run of the other has a coupled run of its own. The operators that
parsers are run with carry simulations over, so two runs are compared parser by parser.
-/

namespace Descent

variable {S S' : Signature}

/-- Whether an event says where a probed parser began or how it ended. -/
def Event.isProbe {Rule : Type} : Event Rule → Bool
  | entered _ _ | left _ _ | missed _ _ => true
  | reported _ | furthest _ | constructed _ | concluded _ => false

@[simp]
theorem Run.events_leaving_after {α : Type} (name : String) (offset : Nat) (run : Run S α) :
    ((run.leaving name).after [.entered name offset]).events =
      .entered name offset :: (run.events ++
        match run.outcome with
        | .matched _ next => [.left name next]
        | .failed failure => [.missed name failure]
        | .faulted _ => []) := by
  obtain ⟨outcome, events, memory⟩ := run
  cases outcome <;> simp [leaving, after]

/-- What is asked to correspond in two runs. Values and expectations have to be the same. -/
structure Coupling (S S' : Signature) where
  offsets : Nat → Nat → Prop
  trackers : Tracker → Tracker → Prop
  cells : Cells S → Cells S' → Prop
  events : List (Event S.Rule) → List (Event S'.Rule) → Prop
  events_nil : events [] []
  events_append : ∀ {xs xs' ys ys'}, events xs xs' → events ys ys' → events (xs ++ ys) (xs' ++ ys')

namespace Coupling

variable {α β : Type} {C : Coupling S S'}

/-- Both matched with the same value, failed with the same expectation, or had the same fault. -/
inductive Outcomes (C : Coupling S S') : Outcome α → Outcome α → Prop where
  | matched (value : α) {next next' : Nat} (h : C.offsets next next') :
    Outcomes C (.matched value next) (.matched value next')
  | failed {failure failure' : Failure} (h : C.offsets failure.offset failure'.offset)
      (he : failure.expected = failure'.expected) :
    Outcomes C (.failed failure) (.failed failure')
  | faulted (fault : Fault) : Outcomes C (.faulted fault) (.faulted fault)

structure Memories (C : Coupling S S') (memory : Memory S) (memory' : Memory S') : Prop where
  trackers : C.trackers memory.tracker memory'.tracker
  cells : C.cells memory.cells memory'.cells

structure Runs (C : Coupling S S') (run : Run S α) (run' : Run S' α) : Prop where
  outcomes : C.Outcomes run.outcome run'.outcome
  events : C.events run.events run'.events
  memories : C.Memories run.memory run'.memory

/-- Every finished run of `action` has a coupled run of `action'`. -/
def Simulates (C : Coupling S S') (action : Action S α) (action' : Action S' α) : Prop :=
  ∀ ⦃offset offset' : Nat⦄ ⦃memory : Memory S⦄ ⦃memory' : Memory S'⦄ ⦃run : Run S α⦄,
    C.offsets offset offset' → C.Memories memory memory' → action offset memory = some run →
      ∃ run', action' offset' memory' = some run' ∧ C.Runs run run'

/-- The same correspondence, seen from the other side. -/
def flip (C : Coupling S S') : Coupling S' S where
  offsets offset offset' := C.offsets offset' offset
  trackers t t' := C.trackers t' t
  cells cells cells' := C.cells cells' cells
  events xs ys := C.events ys xs
  events_nil := C.events_nil
  events_append hx hy := C.events_append hx hy

/-- Actions that simulate each other are both unfinished or have coupled runs. -/
theorem Simulates.cases {action : Action S α} {action' : Action S' α}
    (h : C.Simulates action action') (h' : C.flip.Simulates action' action) {offset offset' : Nat}
    {memory : Memory S} {memory' : Memory S'} (hoffset : C.offsets offset offset')
    (hmemory : C.Memories memory memory') :
    action offset memory = none ∧ action' offset' memory' = none ∨
      ∃ run run', action offset memory = some run ∧ action' offset' memory' = some run' ∧
        C.Runs run run' := by
  cases hrun : action offset memory with
  | none =>
    refine .inl ⟨rfl, Option.eq_none_iff_forall_ne_some.mpr ?_⟩
    intro run' hrun'
    obtain ⟨run, hrun'', -⟩ := h' hoffset ⟨hmemory.trackers, hmemory.cells⟩ hrun'
    cases hrun.symm.trans hrun''
  | some run =>
    obtain ⟨run', hrun', hruns⟩ := h hoffset hmemory hrun
    exact .inr ⟨run, run', rfl, hrun', hruns⟩

theorem Outcomes.map {outcome outcome' : Outcome α} (f : α → β) (h : C.Outcomes outcome outcome') :
    C.Outcomes (outcome.map f) (outcome'.map f) := by
  cases h with
  | matched value h => exact .matched (f value) h
  | failed h he => exact .failed h he
  | faulted fault => exact .faulted fault

theorem Outcomes.of_offsets {D : Coupling S S'} {outcome outcome' : Outcome α}
    (h : D.Outcomes outcome outcome')
    (hoffsets : ∀ {offset offset'}, D.offsets offset offset' → C.offsets offset offset') :
    C.Outcomes outcome outcome' := by
  cases h with
  | matched value h => exact .matched value (hoffsets h)
  | failed h he => exact .failed (hoffsets h) he
  | faulted fault => exact .faulted fault

theorem Runs.map {run : Run S α} {run' : Run S' α} (f : α → β) (h : C.Runs run run') :
    C.Runs (run.map f) (run'.map f) :=
  ⟨h.outcomes.map f, h.events, h.memories⟩

theorem Runs.after {run : Run S α} {run' : Run S' α} {before : List (Event S.Rule)}
    {before' : List (Event S'.Rule)} (h : C.Runs run run') (hbefore : C.events before before') :
    C.Runs (run.after before) (run'.after before') :=
  ⟨h.outcomes, C.events_append hbefore h.events, h.memories⟩

theorem simulates_quiet {outcome outcome' : Nat → Outcome α}
    (h : ∀ {offset offset'}, C.offsets offset offset' →
      C.Outcomes (outcome offset) (outcome' offset')) :
    C.Simulates (fun offset memory => some (.quiet memory (outcome offset)))
      fun offset memory => some (.quiet memory (outcome' offset)) := by
  intro offset offset' memory memory' run hoffset hmemory hrun
  cases hrun
  exact ⟨_, rfl, h hoffset, C.events_nil, hmemory⟩

theorem simulates_yield (value : α) : C.Simulates (Action.yield value) (Action.yield value) :=
  simulates_quiet fun hoffset => .matched value hoffset

theorem simulates_faulting (cause : Fault) :
    C.Simulates (Action.faulting cause : Action S α) (Action.faulting cause) :=
  simulates_quiet fun _ => .faulted cause

/-- Failures at corresponding offsets leave corresponding events and trackers. -/
def Observing (C : Coupling S S') : Prop :=
  ∀ ⦃offset offset' t t'⦄ (expected : String), C.offsets offset offset' → C.trackers t t' →
    C.events (t.observe ⟨offset, expected⟩).1 (t'.observe ⟨offset', expected⟩).1 ∧
      C.trackers (t.report ⟨offset, expected⟩) (t'.report ⟨offset', expected⟩)

theorem Observing.flip (hC : C.Observing) : C.flip.Observing := by
  intro offset offset' t t' expected hoffset ht
  exact hC expected hoffset ht

theorem simulates_failing (hC : C.Observing) (expected : String) :
    C.Simulates (Action.failing expected : Action S α) (Action.failing expected) := by
  intro offset offset' memory memory' run hoffset hmemory hrun
  cases hrun
  obtain ⟨hevents, htrackers⟩ := hC expected hoffset hmemory.trackers
  exact ⟨_, rfl, .failed hoffset rfl, hevents, htrackers, hmemory.cells⟩

section Operators

variable {action first second : Action S α} {action' first' second' : Action S' α}
  {next : α → Action S β} {next' : α → Action S' β} {last : Action S (List α)}
  {last' : Action S' (List α)}

theorem simulates_unfinished : C.Simulates Action.unfinished action' := by
  intro offset offset' memory memory' run hoffset hmemory hrun
  cases hrun

theorem Simulates.bind (ha : C.Simulates action action')
    (hn : ∀ value, C.Simulates (next value) (next' value)) :
    C.Simulates (action.bind next) (action'.bind next') := by
  intro offset offset' memory memory' result hoffset hmemory hresult
  obtain ⟨⟨outcome, events, middle⟩, hrun, hrest⟩ := Option.bind_eq_some_iff.mp hresult
  obtain ⟨⟨outcome', events', middle'⟩, hrun', hout, hevents, hmiddle⟩ := ha hoffset hmemory hrun
  unfold Action.bind
  rw [hrun', Option.bind_some]
  cases hout with
  | matched value hnext =>
    obtain ⟨rest, hmore, rfl⟩ := Option.map_eq_some_iff.mp hrest
    obtain ⟨rest', hmore', hruns⟩ := hn value hnext hmiddle hmore
    exact ⟨_, Option.map_eq_some_iff.mpr ⟨rest', hmore', rfl⟩, hruns.after hevents⟩
  | failed h he =>
    cases hrest
    exact ⟨_, rfl, .failed h he, hevents, hmiddle⟩
  | faulted fault =>
    cases hrest
    exact ⟨_, rfl, .faulted fault, hevents, hmiddle⟩

theorem Simulates.map (f : α → β) (ha : C.Simulates action action') :
    C.Simulates (action.map f) (action'.map f) := by
  intro offset offset' memory memory' result hoffset hmemory hresult
  obtain ⟨run, hrun, rfl⟩ := Option.map_eq_some_iff.mp hresult
  obtain ⟨run', hrun', hruns⟩ := ha hoffset hmemory hrun
  exact ⟨_, Option.map_eq_some_iff.mpr ⟨run', hrun', rfl⟩, hruns.map f⟩

theorem Simulates.orElse (hf : C.Simulates first first') (hs : C.Simulates second second') :
    C.Simulates (first.orElse second) (first'.orElse second') := by
  intro offset offset' memory memory' result hoffset hmemory hresult
  obtain ⟨⟨outcome, events, middle⟩, hrun, hrest⟩ := Option.bind_eq_some_iff.mp hresult
  obtain ⟨⟨outcome', events', middle'⟩, hrun', hout, hevents, hmiddle⟩ := hf hoffset hmemory hrun
  unfold Action.orElse
  rw [hrun', Option.bind_some]
  cases hout with
  | matched value hnext =>
    cases hrest
    exact ⟨_, rfl, .matched value hnext, hevents, hmiddle⟩
  | failed h he =>
    -- Both go on at the offset where they started, whatever the two failures say.
    obtain ⟨rest, hmore, rfl⟩ := Option.map_eq_some_iff.mp hrest
    obtain ⟨rest', hmore', hruns⟩ := hs hoffset hmiddle hmore
    exact ⟨_, Option.map_eq_some_iff.mpr ⟨rest', hmore', rfl⟩, hruns.after hevents⟩
  | faulted fault =>
    cases hrest
    exact ⟨_, rfl, .faulted fault, hevents, hmiddle⟩

theorem Simulates.required (ha : C.Simulates action action') (count : Nat) :
    C.Simulates (action.required count) (action'.required count) := by
  induction count with
  | zero => exact simulates_yield []
  | succ count ih => exact ha.bind fun value => ih.map (value :: ·)

/-- One more optional match, given a simulation of the rest. -/
theorem Simulates.optional_succ {count count' : Nat} (ha : C.Simulates action action')
    (hrest : C.Simulates (action.optional last count) (action'.optional last' count')) :
    C.Simulates (action.optional last (count + 1)) (action'.optional last' (count' + 1)) := by
  intro offset offset' memory memory' result hoffset hmemory hresult
  obtain ⟨⟨outcome, events, middle⟩, hrun, hresult⟩ := Option.bind_eq_some_iff.mp hresult
  obtain ⟨⟨outcome', events', middle'⟩, hrun', hout, hevents, hmiddle⟩ := ha hoffset hmemory hrun
  unfold Action.optional
  rw [hrun', Option.bind_eq_bind, Option.bind_some]
  cases hout with
  | matched value hnext =>
    obtain ⟨rest, hmore, hresult⟩ := Option.bind_eq_some_iff.mp hresult
    cases hresult
    obtain ⟨rest', hmore', hruns⟩ := hrest hnext hmiddle hmore
    refine ⟨_, Option.bind_eq_some_iff.mpr ⟨rest', hmore', rfl⟩, ?_⟩
    exact (hruns.map (value :: ·)).after hevents
  | failed h he =>
    cases hresult
    exact ⟨_, rfl, .matched [] hoffset, hevents, hmiddle⟩
  | faulted fault =>
    cases hresult
    exact ⟨_, rfl, .faulted fault, hevents, hmiddle⟩

theorem Simulates.optional (ha : C.Simulates action action') (hl : C.Simulates last last')
    (count : Nat) :
    C.Simulates (action.optional last count) (action'.optional last' count) := by
  induction count with
  | zero => exact hl
  | succ count ih => exact ha.optional_succ ih

/-- Matches without an upper bound may have more fuel on the simulating side. -/
theorem Simulates.optional_unfinished (ha : C.Simulates action action') {fuel fuel' : Nat}
    (hfuel : fuel ≤ fuel') :
    C.Simulates (action.optional .unfinished fuel) (action'.optional .unfinished fuel') := by
  induction fuel generalizing fuel' with
  | zero => exact simulates_unfinished
  | succ fuel ih =>
    obtain ⟨fuel', rfl⟩ : ∃ n, fuel' = n + 1 := ⟨fuel' - 1, by omega⟩
    exact ha.optional_succ (ih (by omega))

theorem Simulates.times (ha : C.Simulates action action') (bounds : Bounds) {fuel fuel' : Nat}
    (hfuel : fuel ≤ fuel') :
    C.Simulates (action.times bounds fuel) (action'.times bounds fuel') := by
  refine (ha.required bounds.least).bind fun values => Simulates.map (values ++ ·) ?_
  cases bounds.most with
  | none => exact ha.optional_unfinished hfuel
  | some most => exact ha.optional (simulates_yield []) (most - bounds.least)

/-- Where probes do not count, the runs of a probed action are those of the action. -/
theorem Runs.probed_left {run : Run S α} {run' : Run S' α} (h : C.Runs run run')
    (hC : ∀ event : Event S.Rule, event.isProbe → C.events [event] []) (name : String)
    (offset : Nat) : C.Runs ((run.leaving name).after [.entered name offset]) run' := by
  refine ⟨by simpa using h.outcomes, ?_, by simpa using h.memories⟩
  have hentered : C.events [.entered name offset] [] := hC _ rfl
  obtain ⟨outcome, events, memory⟩ := run
  cases outcome with
  | matched value next =>
    have hleft : C.events [.left name next] [] := hC _ rfl
    simpa using C.events_append hentered (C.events_append h.events hleft)
  | failed failure =>
    have hmissed : C.events [.missed name failure] [] := hC _ rfl
    simpa using C.events_append hentered (C.events_append h.events hmissed)
  | faulted fault => simpa using C.events_append hentered h.events

theorem Runs.probed_right {run : Run S α} {run' : Run S' α} (h : C.Runs run run')
    (hC : ∀ event : Event S'.Rule, event.isProbe → C.events [] [event]) (name : String)
    (offset : Nat) : C.Runs run ((run'.leaving name).after [.entered name offset]) := by
  refine ⟨by simpa using h.outcomes, ?_, by simpa using h.memories⟩
  have hentered : C.events [] [.entered name offset] := hC _ rfl
  obtain ⟨outcome, events, memory⟩ := run'
  cases outcome with
  | matched value next =>
    have hleft : C.events [] [.left name next] := hC _ rfl
    simpa using C.events_append hentered (C.events_append h.events hleft)
  | failed failure =>
    have hmissed : C.events [] [.missed name failure] := hC _ rfl
    simpa using C.events_append hentered (C.events_append h.events hmissed)
  | faulted fault => simpa using C.events_append hentered h.events

theorem Simulates.probed_left (ha : C.Simulates action action')
    (hC : ∀ event : Event S.Rule, event.isProbe → C.events [event] []) (name : String) :
    C.Simulates (action.probed name) action' := by
  intro offset offset' memory memory' result hoffset hmemory hresult
  obtain ⟨run, hrun, rfl⟩ := Option.map_eq_some_iff.mp hresult
  obtain ⟨run', hrun', hruns⟩ := ha hoffset hmemory hrun
  exact ⟨run', hrun', hruns.probed_left hC name offset⟩

theorem Simulates.probed_right (ha : C.Simulates action action')
    (hC : ∀ event : Event S'.Rule, event.isProbe → C.events [] [event]) (name : String) :
    C.Simulates action (action'.probed name) := by
  intro offset offset' memory memory' run hoffset hmemory hrun
  obtain ⟨run', hrun', hruns⟩ := ha hoffset hmemory hrun
  exact ⟨_, Option.map_eq_some_iff.mpr ⟨run', hrun', rfl⟩, hruns.probed_right hC name offset'⟩

end Operators

/-- At corresponding offsets the same text remains, and offsets as far beyond them correspond. -/
structure SameRest (C : Coupling S S') (input input' : Text) : Prop where
  after? : ∀ {offset offset'}, C.offsets offset offset' →
    Text.after? input offset = Text.after? input' offset'
  isAtEnd : ∀ {offset offset'}, C.offsets offset offset' →
    Text.isAtEnd input offset = Text.isAtEnd input' offset'
  add : ∀ {offset offset'}, C.offsets offset offset' → ∀ n, C.offsets (offset + n) (offset' + n)

theorem SameRest.of_eq (hC : C.offsets = Eq) (input : Text) : C.SameRest input input := by
  constructor <;> rw [hC]
  · rintro offset _ rfl
    rfl
  · rintro offset _ rfl
    rfl
  · rintro offset _ rfl n
    rfl

theorem SameRest.flip {input input' : Text} (hC : C.SameRest input input') :
    C.flip.SameRest input' input where
  after? hoffset := (hC.after? hoffset).symm
  isAtEnd hoffset := (hC.isAtEnd hoffset).symm
  add hoffset n := hC.add hoffset n

section Rest

variable {input input' : Text}

theorem simulates_lexeme (hrest : C.SameRest input input') (hobserving : C.Observing)
    (l : Lexeme α) : C.Simulates (l.run input) (l.run input') := by
  intro offset offset' memory memory' run hoffset hmemory hrun
  unfold Lexeme.run at hrun ⊢
  rw [← hrest.after? hoffset]
  split at hrun
  · cases hrun
    exact ⟨_, rfl, .faulted .badOffset, C.events_nil, hmemory⟩
  · split at hrun
    · cases hrun
      exact ⟨_, rfl, .matched _ (hrest.add hoffset _), C.events_nil, hmemory⟩
    · exact simulates_failing hobserving l.expected hoffset hmemory hrun

theorem simulates_endOfInput (hrest : C.SameRest input input') (hobserving : C.Observing) :
    C.Simulates (Action.endOfInput input) (Action.endOfInput input') := by
  intro offset offset' memory memory' run hoffset hmemory hrun
  unfold Action.endOfInput at hrun ⊢
  rw [← hrest.isAtEnd hoffset]
  by_cases hend : Text.isAtEnd input offset = true
  · rw [if_pos hend] at hrun ⊢
    exact simulates_yield () hoffset hmemory hrun
  · rw [if_neg hend] at hrun ⊢
    exact simulates_failing hobserving "EOF" hoffset hmemory hrun

end Rest

section SameOffsets

theorem Outcomes.refl_of_eq (hC : C.offsets = Eq) (outcome : Outcome α) :
    C.Outcomes outcome outcome := by
  cases outcome with
  | matched value next => exact .matched value (hC ▸ rfl)
  | failed failure => exact .failed (hC ▸ rfl) rfl
  | faulted fault => exact .faulted fault

theorem Outcomes.eq (hC : C.offsets = Eq) {outcome outcome' : Outcome α}
    (h : C.Outcomes outcome outcome') : outcome = outcome' := by
  cases h with
  | matched value h =>
    rw [hC] at h
    rw [h]
  | @failed failure failure' h he =>
    rw [hC] at h
    cases failure
    cases failure'
    cases h
    cases he
    rfl
  | faulted fault => rfl

theorem simulates_currentOffset (hC : C.offsets = Eq) :
    C.Simulates (Action.currentOffset : Action S Nat) (Action.currentOffset : Action S' Nat) := by
  refine simulates_quiet ?_
  intro offset offset' hoffset
  obtain rfl : offset = offset' := hC ▸ hoffset
  exact .matched offset hoffset

end SameOffsets

/-- The two actions may work on inner cells that correspond in a way of their own. -/
theorem simulates_enclosed (inner : Cells S → Cells S' → Prop)
    {enclosure : Cells S → Enclosure S α} {enclosure' : Cells S' → Enclosure S' α}
    (hstart : ∀ {cells cells'}, C.cells cells cells' →
      inner (enclosure cells).cells (enclosure' cells').cells ∧
        C.events (enclosure cells).events (enclosure' cells').events ∧
        ({ C with cells := inner } : Coupling S S').Simulates (enclosure cells).action
          (enclosure' cells').action)
    (hfinish : ∀ {cells cells' left left'}, C.cells cells cells' → inner left left' →
      C.cells ((enclosure cells).finish left) ((enclosure' cells').finish left')) :
    C.Simulates (Action.enclosed enclosure) (Action.enclosed enclosure') := by
  intro offset offset' memory memory' result hoffset hmemory hresult
  obtain ⟨run, hrun, rfl⟩ := Option.map_eq_some_iff.mp hresult
  obtain ⟨hcells, hevents, hbody⟩ := hstart hmemory.cells
  have hopened : Memories { C with cells := inner }
      { memory with cells := (enclosure memory.cells).cells }
      { memory' with cells := (enclosure' memory'.cells).cells } :=
    ⟨hmemory.trackers, hcells⟩
  obtain ⟨run', hrun', hout, hmore, htrackers, hleft⟩ := hbody hoffset hopened hrun
  refine ⟨_, Option.map_eq_some_iff.mpr ⟨run', hrun', rfl⟩, ?_⟩
  exact ⟨hout.of_offsets fun h => h, C.events_append hevents hmore, htrackers,
    hfinish hmemory.cells hleft⟩

/-- The bodies that two nodes open are compared with the cells that they open with them. -/
theorem simulates_lazy {D : Coupling S S} {grammar grammar' : Grammar S}
    {call call' : (α : Type) → Parser S α → Action S α} {slot : Nat} {rule : S.Rule}
    (hopening : ∀ {cells cells'}, D.cells cells cells' →
      let opening := cells.opening grammar slot rule
      let opening' := cells'.opening grammar' slot rule
      D.Simulates (call _ opening.body) (call' _ opening'.body) ∧
        D.cells opening.inner opening'.inner ∧ D.events opening.events opening'.events)
    (hput : ∀ {cells cells' inner inner'}, D.cells cells cells' → D.cells inner inner' →
      D.cells (cells.put slot rule (cells.opening grammar slot rule).body inner)
        (cells'.put slot rule (cells'.opening grammar' slot rule).body inner')) :
    D.Simulates (.lazy grammar call slot rule) (.lazy grammar' call' slot rule) := by
  rw [Action.lazy_eq_enclosed, Action.lazy_eq_enclosed]
  apply simulates_enclosed D.cells
  · intro cells cells' hcells
    obtain ⟨hbody, hinner, hevents⟩ := hopening hcells
    exact ⟨hinner, hevents, hbody⟩
  · exact hput

end Coupling

end Descent
