import Descent.Proofs.Nodes
import Descent.Proofs.Reporting

/-!
# Nodes are constructed on their first run

Every node has one cell, in the cells along its way. The cell is filled when the node is run for the
first time and stays filled, so a node that runs again is not constructed again, and a node that
never runs is never constructed.
-/

namespace Descent

variable {S : Signature}

/-- What can befall a node. -/
inductive Stage where
  | run
  | construction
deriving DecidableEq, Repr

/-- In an unfolded run, only the watched node is probed. -/
def Event.stage? (watch : Node S) : Event (Node S) → Option Stage
  | entered _ _ => some .run
  | constructed node => if node = watch then some .construction else none
  | _ => none

def Event.stages (watch : Node S) (events : List (Event (Node S))) : List Stage :=
  events.filterMap (stage? watch)

/-- The stages of a node between two times, given whether its cell is filled at each of them. -/
inductive Fares : Bool → List Stage → Bool → Prop where
  | unused : Fares false [] false
  | first (count : Nat) : Fares false (.run :: .construction :: .replicate count .run) true
  | again (count : Nat) : Fares true (.replicate count .run) true

/-- The node is not run at all, or it is constructed once, in the first of its runs. -/
def ConstructedOnFirstRun (watch : Node S) (events : List (Event (Node S))) : Prop :=
  Event.stages watch events = [] ∨
    ∃ count, Event.stages watch events = .run :: .construction :: .replicate count .run

namespace Fares

theorem constructedOnFirstRun {watch : Node S} {events : List (Event (Node S))} {after : Bool}
    (h : Fares false (Event.stages watch events) after) : ConstructedOnFirstRun watch events := by
  unfold ConstructedOnFirstRun
  generalize Event.stages watch events = stages at h ⊢
  cases h with
  | unused => exact .inl rfl
  | first count => exact .inr ⟨count, rfl⟩

theorem refl (filled : Bool) : Fares filled [] filled := by
  cases filled with
  | false => exact .unused
  | true => exact .again 0

theorem append {before middle after : Bool} {xs ys : List Stage} (h : Fares before xs middle)
    (h' : Fares middle ys after) : Fares before (xs ++ ys) after := by
  cases h with
  | unused => exact h'
  | first count =>
    obtain ⟨⟩ | ⟨⟩ | ⟨more⟩ := h'
    rw [List.cons_append, List.cons_append, List.replicate_append_replicate]
    exact .first (count + more)
  | again count =>
    obtain ⟨⟩ | ⟨⟩ | ⟨more⟩ := h'
    rw [List.replicate_append_replicate]
    exact .again (count + more)

theorem eq_nil {stages : List Stage} (h : Fares false stages false) : stages = [] := by
  cases h
  rfl

end Fares

namespace Event

variable {watch : Node S}

theorem stages_append (xs ys : List (Event (Node S))) :
    stages watch (xs ++ ys) = stages watch xs ++ stages watch ys :=
  List.filterMap_append

theorem stages_eq_nil {events : List (Event (Node S))} (h : ∀ event ∈ events, event.isAccount) :
    stages watch events = [] := by
  apply List.filterMap_eq_nil_iff.mpr
  intro event hevent
  have haccount := h event hevent
  cases event with
  | reported | furthest | concluded => rfl
  | constructed | entered | left | missed => cases haccount

theorem stages_observe (t : Tracker) (failure : Failure) :
    stages watch (t.observe failure).1 = [] :=
  stages_eq_nil fun _ => isAccount_of_mem_observe

theorem stages_observeAll (t : Tracker) (failures : List Failure) :
    stages watch (t.observeAll failures).1 = [] := by
  induction failures generalizing t with
  | nil => rfl
  | cons failure failures ih =>
    unfold Tracker.observeAll
    exact (stages_append _ _).trans (by rw [stages_observe, ih]; rfl)

theorem stages_probed {α : Type} (name : String) (offset : Nat) (run : Run S.unfolded α) :
    stages watch ((run.leaving name).after [.entered name offset]).events =
      .run :: stages watch run.events := by
  rw [Run.events_leaving_after]
  have hstages : ∀ later, stages watch later = [] →
      stages watch (.entered name offset :: (run.events ++ later)) =
        .run :: stages watch run.events := by
    intro later hlater
    have happend : stages watch (run.events ++ later) = stages watch run.events := by
      rw [stages_append, hlater, List.append_nil]
    exact congrArg (Stage.run :: ·) happend
  cases run.outcome with
  | matched value next => exact hstages _ rfl
  | failed failure => exact hstages _ rfl
  | faulted fault => exact hstages _ rfl

theorem stages_construction (node : Node S) (failures : List Failure) :
    stages watch (constructed node :: failures.map furthest) =
      if node = watch then [.construction] else [] := by
  by_cases h : node = watch
  · simp [stages, stage?, h]
  · simp [stages, stage?, h]

end Event

/-- The rest of a way from a body that it leads through; nothing if it does not. -/
def onward {Step : Type} [DecidableEq Step] : List Step → List Step → List Step
  | [], way => way
  | _ :: _, [] => []
  | step :: within, step' :: way => if step = step' then onward within way else []

section Onward

variable {Step : Type} [DecidableEq Step]

/-- One step further on, the way has to take the same step. -/
theorem onward_concat (within way : List Step) (step : Step) :
    onward (within ++ [step]) way =
      if (onward within way).head? = some step then (onward within way).tail else [] := by
  induction within generalizing way with
  | nil =>
    cases way with
    | nil => rfl
    | cons step' way => simp [onward, eq_comm]
  | cons first within ih =>
    cases way with
    | nil => rfl
    | cons step' way =>
      by_cases h : first = step'
      · simpa [onward, h] using ih way
      · simp [onward, h]

theorem append_onward {within way : List Step} (h : onward within way ≠ []) :
    within ++ onward within way = way := by
  induction within generalizing way with
  | nil => rfl
  | cons first within ih =>
    cases way with
    | nil => exact absurd rfl h
    | cons step' way =>
      by_cases hsame : first = step'
      · subst hsame
        simp only [onward, if_true] at h ⊢
        rw [List.cons_append, ih h]
      · simp [onward, hsame] at h

end Onward

theorem Node.eq_of_onward {watch node : Node S}
    (h : onward node.within watch.way = [(node.slot, node.rule)]) : node = watch := by
  have hway : node.way = watch.way := by
    have happend := append_onward (h ▸ List.cons_ne_nil _ _)
    rwa [h] at happend
  obtain ⟨hwithin, hlast⟩ := List.append_inj' hway rfl
  obtain ⟨within, slot, rule⟩ := node
  cases watch
  cases hwithin
  cases hlast
  rfl

theorem Node.onward_within (node : Node S) :
    onward node.within node.way = [(node.slot, node.rule)] := by
  unfold way
  induction node.within with
  | nil => rfl
  | cons step within ih => simpa [onward] using ih

theorem Node.onward_way (node : Node S) (way : List (Nat × S.Rule)) :
    onward node.way way =
      if (onward node.within way).head? = some (node.slot, node.rule) then
        (onward node.within way).tail
      else [] :=
  onward_concat node.within way (node.slot, node.rule)

/-- Whether the node at the end of a way has a cell, seen from the cells of a body on it. -/
def Cells.filled : List (Nat × S.Rule) → List (Nat × S.Rule) → Cells S.unfolded → Bool
  | _, [], _ => false
  | within, (slot, rule) :: way, cells =>
    match cells.find? slot { within, slot, rule } with
    | none => false
    | some (_, inner) => way.isEmpty || filled (within ++ [(slot, rule)]) way inner

namespace Cells

@[simp]
theorem filled_nil (within : List (Nat × S.Rule)) (cells : Cells S.unfolded) :
    filled within [] cells = false := by
  unfold filled
  rfl

theorem filled_empty (within way : List (Nat × S.Rule)) : filled within way empty = false := by
  cases way with
  | nil => exact filled_nil within empty
  | cons step way => rfl

variable {grammar : Grammar S.unfolded}

theorem filled_opening (node : Node S) {way : List (Nat × S.Rule)} (hway : way ≠ [])
    (cells : Cells S.unfolded) :
    filled node.within ((node.slot, node.rule) :: way) cells =
      filled node.way way (cells.opening grammar node.slot node).inner := by
  unfold opening
  rw [filled]
  cases cells.find? node.slot node with
  | none => exact (filled_empty node.way way).symm
  | some found => simp [hway, Node.way]

theorem filled_self (node : Node S) (cells : Cells S.unfolded) :
    filled node.within [(node.slot, node.rule)] cells = (cells.find? node.slot node).isSome := by
  unfold filled
  cases cells.find? node.slot node with
  | none => rfl
  | some found => rfl

theorem filled_put (node : Node S) (way : List (Nat × S.Rule)) (cells inner : Cells S.unfolded)
    (body : Parser S.unfolded (S.Result node.rule)) :
    filled node.within ((node.slot, node.rule) :: way) (cells.put node.slot node body inner) =
      (way.isEmpty || filled node.way way inner) := by
  rw [filled, find?_put_self]
  rfl

/-- What happens to the cell of another node does not matter. -/
theorem filled_put_of_ne {node : Node S} {way : List (Nat × S.Rule)}
    (h : way.head? ≠ some (node.slot, node.rule)) (cells inner : Cells S.unfolded)
    (body : Parser S.unfolded (S.Result node.rule)) :
    filled node.within way (cells.put node.slot node body inner) =
      filled node.within way cells := by
  cases way with
  | nil => rw [filled_nil, filled_nil]
  | cons step way =>
    have hother : ¬ (node.slot = step.1 ∧ node = ⟨node.within, step.1, step.2⟩) := by
      rintro ⟨-, hnode⟩
      apply h
      rw [hnode]
      rfl
    rw [filled, filled, find?_put_of_ne hother]

end Cells

/-- The watched node fares as its cell says, if `filled` finds that. -/
def Chronicle.faring (grammar : Grammar S.unfolded) (watch : Node S)
    (filled : Cells S.unfolded → Bool) : Chronicle S.unfolded :=
  faithful grammar
    { holds := fun _ memory _ events memory' =>
        Fares (filled memory.cells) (Event.stages watch events) (filled memory'.cells)
      stay := fun _ memory => .refl (filled memory.cells)
      goOn := by
        intro offset next memory memory' memory'' outcome xs ys hxs hys
        rw [Event.stages_append]
        exact hxs.append hys
      goBack := by
        intro offset failure memory memory' memory'' outcome xs ys hxs hys
        rw [Event.stages_append]
        exact hxs.append hys }

namespace Chronicle

variable {α : Type} {grammar : Grammar S.unfolded} {watch : Node S}
  {filled : Cells S.unfolded → Bool} {input : Text}

theorem faring_elementary {action : Action S.unfolded α} (ha : action.IsElementary) :
    (faring grammar watch filled).Covers action := by
  intro offset memory run hrun hcells
  rcases ha hrun with ⟨failure, rfl⟩ | ⟨outcome, rfl, -⟩
  · refine ⟨hcells, ?_⟩
    have hevents : Event.stages watch (Run.failing memory failure : Run S.unfolded α).events = [] :=
      Event.stages_observe memory.tracker failure
    dsimp only
    rw [hevents]
    exact .refl (filled memory.cells)
  · exact ⟨hcells, .refl (filled memory.cells)⟩

theorem faring_custom (act : Act α) :
    (faring grammar watch filled).Covers (Action.custom input act) := by
  intro offset memory run hrun hcells
  cases hrun
  refine ⟨hcells, ?_⟩
  dsimp only
  rw [Event.stages_observeAll]
  exact .refl (filled memory.cells)

variable {call : (α : Type) → Parser S.unfolded α → Action S.unfolded α} {node : Node S}

theorem faring_lazy (hother : node ≠ watch)
    (hbody : (faring grammar watch (Cells.filled node.way (onward node.way watch.way))).Covers
      (call _ (grammar.body node))) :
    (faring grammar watch (Cells.filled node.within (onward node.within watch.way))).Covers
      (.lazy grammar call node.slot node) := by
  apply faithful_lazy hbody
  intro offset memory outcome events memory' opening hfares
  have hopening : Event.stages watch opening.events = [] := by
    rcases Cells.opening_events memory.cells grammar node.slot node with hevents | hevents
    · rw [hevents]
      rfl
    · rw [hevents, Event.stages_construction, if_neg hother]
  dsimp only at hfares ⊢
  rw [Event.stages_append, hopening, List.nil_append]
  rw [Node.onward_way] at hfares
  by_cases hstep : (onward node.within watch.way).head? = some (node.slot, node.rule)
  · -- The way to the watched node leads through this one, and further on.
    rw [if_pos hstep] at hfares
    obtain ⟨way, hway⟩ := List.head?_eq_some_iff.mp hstep
    rw [hway] at hfares ⊢
    have hmore : way ≠ [] := by
      rintro rfl
      exact hother (Node.eq_of_onward hway)
    rw [Cells.filled_opening node hmore, Cells.filled_put, List.isEmpty_eq_false_iff.mpr hmore]
    exact hfares
  · rw [if_neg hstep, Cells.filled_nil, Cells.filled_nil] at hfares
    rw [Cells.filled_put_of_ne hstep, hfares.eq_nil]
    exact .refl _

theorem faring_watched
    (hbody : (faring grammar watch (Cells.filled watch.way (onward watch.way watch.way))).Covers
      (call _ (grammar.body watch))) (name : String) :
    (faring grammar watch (Cells.filled watch.within (onward watch.within watch.way))).Covers
      ((Action.lazy grammar call watch.slot watch).probed name) := by
  intro offset memory result hresult hcells
  obtain ⟨inside, hinside, rfl⟩ := Option.map_eq_some_iff.mp hresult
  rw [Action.lazy_eq] at hinside
  obtain ⟨run, hrun, rfl⟩ := Option.map_eq_some_iff.mp hinside
  obtain ⟨hopened, hinner⟩ := hcells.opening watch.slot watch
  rw [hopened] at hrun
  obtain ⟨hleft, hfares⟩ := hbody hrun hinner
  have hinside : Event.stages watch run.events = [] := by
    rw [Node.onward_way, Node.onward_within] at hfares
    simp only [List.head?_cons, if_true, List.tail_cons, Cells.filled_nil] at hfares
    exact hfares.eq_nil
  refine ⟨?_, ?_⟩
  · rw [Run.memory_after, Run.memory_leaving]
    exact hcells.closing hleft watch.slot watch
  dsimp only
  rw [Event.stages_probed, Node.onward_within, Run.memory_after, Run.memory_leaving]
  unfold Run.closing
  rw [Event.stages_append, hinside, List.append_nil, Cells.filled_put, Cells.filled_self]
  unfold Cells.opening
  cases memory.cells.find? watch.slot watch with
  | none =>
    dsimp only
    rw [Event.stages_construction, if_pos rfl]
    exact .first 0
  | some found => exact .again 1

end Chronicle

namespace Parser

variable {α : Type} {grammar : Grammar S} {watch : Node S} {input : Text}

theorem faring_action_unfolded {call : (α : Type) → Parser S.unfolded α → Action S.unfolded α}
    (fuel : Nat)
    (hcall : ∀ node : Node S, (Chronicle.faring (grammar.unfolded watch) watch
      (Cells.filled node.way (onward node.way watch.way))).Covers
        (call _ ((grammar.unfolded watch).body node)))
    (within : List (Nat × S.Rule)) (p : Parser S α) :
    (Chronicle.faring (grammar.unfolded watch) watch
      (Cells.filled within (onward within watch.way))).Covers
        ((p.unfolded watch within).action (grammar.unfolded watch) input call fuel) := by
  induction p with
  | lexeme l => exact Chronicle.faring_elementary (Action.isElementary_lexeme l)
  | endOfInput => exact Chronicle.faring_elementary Action.isElementary_endOfInput
  | always value => exact Chronicle.faring_elementary (Action.isElementary_quiet (by simp))
  | never expected => exact Chronicle.faring_elementary (Action.isElementary_failing expected)
  | currentOffset => exact Chronicle.faring_elementary (Action.isElementary_quiet (by simp))
  | map f p ih => exact ih.map f
  | bind p next ihp ihn => exact ihp.bind ihn
  | zipWith f p q ihp ihq => exact ihp.bind fun a => ihq.map (f a)
  | orElse p q ihp ihq => exact ihp.orElse ihq
  | times p bounds ih => exact ih.times bounds fuel
  | lazy slot rule =>
    unfold unfolded
    dsimp only
    split
    · next hwatch =>
      subst hwatch
      exact Chronicle.faring_watched (hcall _) "node"
    · next hother => exact Chronicle.faring_lazy hother (hcall _)
  | probe name p ih => exact ih
  | custom act => exact Chronicle.faring_custom act
  | fault cause => exact Chronicle.faring_elementary (Action.isElementary_quiet (by simp))

theorem faring_runWithin_unfolded (within : List (Nat × S.Rule)) (fuel : Nat) (p : Parser S α) :
    (Chronicle.faring (grammar.unfolded watch) watch
      (Cells.filled within (onward within watch.way))).Covers
        ((p.unfolded watch within).runWithin (grammar.unfolded watch) input fuel) := by
  induction fuel generalizing α within with
  | zero => exact Chronicle.covers_unfinished
  | succ fuel ih =>
    refine faring_action_unfolded fuel ?_ within p
    intro node
    exact ih node.way (grammar.body node.rule)

end Parser

end Descent
