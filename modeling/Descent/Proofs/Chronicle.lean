import Descent.Proofs.Cells
import Descent.Proofs.Sequencing

/-!
# Chronicles

What all finished runs of an action have in common: a relation between the offset and the memory
that they start with, how they end, what is observed and the memory that they leave. If it allows a
run to stay where it is, to go on after a match and to go back after a failure, then the operators
that parsers are run with keep it.
-/

namespace Descent

variable {S : Signature}

/-- The outcome without the value. -/
def Outcome.shape {α : Type} (outcome : Outcome α) : Outcome Unit :=
  outcome.map fun _ => ()

namespace Outcome

variable {α β : Type}

@[simp]
theorem shape_matched (value : α) (next : Nat) : (matched value next).shape = .matched () next :=
  rfl

@[simp]
theorem shape_failed (failure : Failure) : (failed failure : Outcome α).shape = .failed failure :=
  rfl

@[simp]
theorem shape_faulted (fault : Fault) : (faulted fault : Outcome α).shape = .faulted fault :=
  rfl

@[simp]
theorem shape_map (f : α → β) (outcome : Outcome α) : (outcome.map f).shape = outcome.shape := by
  cases outcome <;> rfl

theorem shape_eq_matched_iff {outcome : Outcome α} {next : Nat} :
    outcome.shape = .matched () next ↔ ∃ value, outcome = .matched value next := by
  cases outcome <;> simp

theorem shape_eq_failed_iff {outcome : Outcome α} {failure : Failure} :
    outcome.shape = .failed failure ↔ outcome = .failed failure := by
  cases outcome <;> simp

end Outcome

structure Chronicle (S : Signature) where
  holds : Nat → Memory S → Outcome Unit → List (Event S.Rule) → Memory S → Prop
  stay : ∀ offset memory, holds offset memory (.matched () offset) [] memory
  goOn : ∀ {offset next memory memory' memory'' outcome xs ys},
    holds offset memory (.matched () next) xs memory' → holds next memory' outcome ys memory'' →
      holds offset memory outcome (xs ++ ys) memory''
  goBack : ∀ {offset failure memory memory' memory'' outcome xs ys},
    holds offset memory (.failed failure) xs memory' → holds offset memory' outcome ys memory'' →
      holds offset memory outcome (xs ++ ys) memory''

namespace Chronicle

variable {α β : Type} {K : Chronicle S}

def Covers (K : Chronicle S) (action : Action S α) : Prop :=
  ∀ ⦃offset : Nat⦄ ⦃memory : Memory S⦄ ⦃run : Run S α⦄, action offset memory = some run →
    K.holds offset memory run.outcome.shape run.events run.memory

theorem covers_yield (value : α) : K.Covers (Action.yield value) := by
  intro offset memory run hrun
  cases hrun
  exact K.stay offset memory

theorem covers_unfinished : K.Covers (Action.unfinished : Action S α) := by
  intro offset memory run hrun
  cases hrun

theorem Covers.map {action : Action S α} (f : α → β) (ha : K.Covers action) :
    K.Covers (action.map f) := by
  intro offset memory result hresult
  obtain ⟨run, hrun, rfl⟩ := Option.map_eq_some_iff.mp hresult
  simpa [Run.map] using ha hrun

theorem Covers.bind {action : Action S α} {next : α → Action S β} (ha : K.Covers action)
    (hn : ∀ value, K.Covers (next value)) : K.Covers (action.bind next) := by
  intro offset memory result hresult
  obtain ⟨run, hrun, hrest⟩ := Option.bind_eq_some_iff.mp hresult
  have hfirst := ha hrun
  rcases Run.andThen_eq_some_iff.mp hrest with
    ⟨value, middle, rest, hmatched, hmore, rfl⟩ | ⟨failure, hfailed, rfl⟩ | ⟨fault, hfaulted, rfl⟩
  · rw [hmatched] at hfirst
    exact K.goOn hfirst (hn value hmore)
  · rw [hfailed] at hfirst
    exact hfirst
  · rw [hfaulted] at hfirst
    exact hfirst

theorem Covers.orElse {first second : Action S α} (hf : K.Covers first) (hs : K.Covers second) :
    K.Covers (first.orElse second) := by
  intro offset memory result hresult
  obtain ⟨attempt, hattempt, hrest⟩ := Option.bind_eq_some_iff.mp hresult
  have hfirst := hf hattempt
  rcases Run.orElse_eq_some_iff.mp hrest with ⟨failure, rest, hfailed, hsecond, rfl⟩ | ⟨-, rfl⟩
  · rw [hfailed] at hfirst
    exact K.goBack hfirst (hs hsecond)
  · exact hfirst

theorem Covers.required {action : Action S α} (ha : K.Covers action) (count : Nat) :
    K.Covers (action.required count) := by
  induction count with
  | zero => exact covers_yield []
  | succ count ih => exact ha.bind fun value => ih.map (value :: ·)

theorem Covers.optional {action : Action S α} {last : Action S (List α)} (ha : K.Covers action)
    (hl : K.Covers last) (count : Nat) : K.Covers (action.optional last count) := by
  induction count with
  | zero => exact hl
  | succ count ih =>
    intro offset memory result hresult
    obtain ⟨run, hrun, hends⟩ := Action.optional_succ_eq_some_iff.mp hresult
    have hfirst := ha hrun
    rcases hends with ⟨value, middle, rest, hmatched, hmore, rfl⟩ | ⟨failure, hfailed, rfl⟩ |
      ⟨fault, hfaulted, rfl⟩
    · rw [hmatched] at hfirst
      simpa [Run.map, Run.after] using K.goOn hfirst (ih hmore)
    · -- The failure that ends a repetition is one that is backtracked over.
      rw [hfailed] at hfirst
      simpa using K.goBack hfirst (K.stay offset run.memory)
    · rw [hfaulted] at hfirst
      exact hfirst

theorem Covers.times {action : Action S α} (ha : K.Covers action) (bounds : Bounds) (fuel : Nat) :
    K.Covers (action.times bounds fuel) := by
  refine (ha.required bounds.least).bind fun values => Covers.map (values ++ ·) ?_
  cases bounds.most with
  | none => exact ha.optional covers_unfinished fuel
  | some most => exact ha.optional (covers_yield []) (most - bounds.least)

/-- What holds of runs that start with faithful cells. They leave such cells too. -/
def faithful (grammar : Grammar S) (K : Chronicle S) : Chronicle S where
  holds offset memory outcome events memory' := memory.cells.Faithful grammar →
    memory'.cells.Faithful grammar ∧ K.holds offset memory outcome events memory'
  stay offset memory hcells := ⟨hcells, K.stay offset memory⟩
  goOn := by
    intro offset next memory memory' memory'' outcome xs ys hfirst hrest hcells
    obtain ⟨hmiddle, hxs⟩ := hfirst hcells
    obtain ⟨hfaithful, hys⟩ := hrest hmiddle
    exact ⟨hfaithful, K.goOn hxs hys⟩
  goBack := by
    intro offset failure memory memory' memory'' outcome xs ys hfirst hrest hcells
    obtain ⟨hmiddle, hxs⟩ := hfirst hcells
    obtain ⟨hfaithful, hys⟩ := hrest hmiddle
    exact ⟨hfaithful, K.goBack hxs hys⟩

/-- What holds of the runs of the body of a rule tells what holds of the node around it. -/
theorem faithful_lazy {K K' : Chronicle S} {grammar : Grammar S}
    {call : (α : Type) → Parser S α → Action S α} {slot : Nat} {rule : S.Rule}
    (hbody : (K.faithful grammar).Covers (call _ (grammar.body rule)))
    (hnode : ∀ {offset memory outcome events memory'},
      let opening := memory.cells.opening grammar slot rule
      K.holds offset { memory with cells := opening.inner } outcome events memory' →
        K'.holds offset memory outcome (opening.events ++ events)
          { memory' with cells := memory.cells.put slot rule opening.body memory'.cells }) :
    (K'.faithful grammar).Covers (.lazy grammar call slot rule) := by
  intro offset memory result hresult hcells
  rw [Action.lazy_eq] at hresult
  obtain ⟨run, hrun, rfl⟩ := Option.map_eq_some_iff.mp hresult
  obtain ⟨hopened, hinner⟩ := hcells.opening slot rule
  rw [hopened] at hrun
  obtain ⟨hfaithful, hinside⟩ := hbody hrun hinner
  exact ⟨hcells.closing hfaithful slot rule, hnode hinside⟩

end Chronicle

end Descent
