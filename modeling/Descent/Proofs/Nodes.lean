import Descent.Proofs.Session

/-!
# The nodes of a parser

A body that is constructed brings lazy nodes of its own, so the nodes of a parser form a tree, and a
node is told by the way that leads to it. In the unfolded grammar every node has a rule of its own:
the events of a run then say which node was constructed, and a probe around one node of interest
shows when that node is run. Unfolding changes nothing else.
-/

namespace Descent

variable {S : Signature}

/-- A lazy node of the body that the nodes before it lead to. -/
structure Node (S : Signature) where
  within : List (Nat × S.Rule)
  slot : Nat
  rule : S.Rule
deriving DecidableEq

/-- The way to the body that the node constructs. -/
def Node.way (node : Node S) : List (Nat × S.Rule) :=
  node.within ++ [(node.slot, node.rule)]

abbrev Signature.unfolded (S : Signature) : Signature where
  Rule := Node S
  Result node := S.Result node.rule
  decEq := inferInstance

/-- The parser with a rule for each node. There is a probe around the node `watch` and no other. -/
def Parser.unfolded (watch : Node S) (within : List (Nat × S.Rule)) :
    {α : Type} → Parser S α → Parser S.unfolded α
  | _, .lexeme l => .lexeme l
  | _, .endOfInput => .endOfInput
  | _, .always value => .always value
  | _, .never expected => .never expected
  | _, .currentOffset => .currentOffset
  | _, .map f p => .map f (p.unfolded watch within)
  | _, .bind p next =>
    .bind (p.unfolded watch within) fun value => (next value).unfolded watch within
  | _, .zipWith f p q => .zipWith f (p.unfolded watch within) (q.unfolded watch within)
  | _, .orElse p q => .orElse (p.unfolded watch within) (q.unfolded watch within)
  | _, .times p bounds => .times (p.unfolded watch within) bounds
  | _, .lazy slot rule =>
    let node : Node S := { within, slot, rule }
    if node = watch then .probe "node" (.lazy (S := S.unfolded) slot node)
    else .lazy (S := S.unfolded) slot node
  | _, .probe _ p => p.unfolded watch within
  | _, .custom act => .custom act
  | _, .fault cause => .fault cause

def Grammar.unfolded (watch : Node S) (grammar : Grammar S) : Grammar S.unfolded where
  body node := (grammar.body node.rule).unfolded watch node.way
  foreign node := grammar.foreign node.rule

namespace Cells

def unfolded (watch : Node S) (within : List (Nat × S.Rule)) : Cells S → Cells S.unfolded
  | empty => empty
  | cell slot rule body inner rest =>
    let node : Node S := { within, slot, rule }
    cell (S := S.unfolded) slot node (body.unfolded watch node.way)
      (inner.unfolded watch node.way) (rest.unfolded watch within)

variable {watch : Node S}

theorem find?_unfolded (cells : Cells S) (node : Node S) :
    (cells.unfolded watch node.within).find? node.slot node =
      (cells.find? node.slot node.rule).map fun (body, inner) =>
        (body.unfolded watch node.way, inner.unfolded watch node.way) := by
  obtain ⟨within, slot, rule⟩ := node
  induction cells with
  | empty => rfl
  | cell slot' rule' body inner rest _ ih =>
    by_cases h : slot' = slot ∧ rule' = rule
    · obtain ⟨rfl, rfl⟩ := h
      simp [unfolded, find?]
    · simpa [unfolded, find?, h] using ih

theorem put_unfolded (cells : Cells S) (node : Node S) (body : Parser S (S.Result node.rule))
    (inner : Cells S) :
    (cells.put node.slot node.rule body inner).unfolded watch node.within =
      (cells.unfolded watch node.within).put node.slot node (body.unfolded watch node.way)
        (inner.unfolded watch node.way) := by
  obtain ⟨within, slot, rule⟩ := node
  induction cells with
  | empty => rfl
  | cell slot' rule' body' inner' rest _ ih =>
    by_cases h : slot' = slot ∧ rule' = rule
    · obtain ⟨rfl, rfl⟩ := h
      simp [put, unfolded]
    · simp [put, unfolded, h, ih]

end Cells

namespace Event

variable {Rule : Type}

def constructed? : Event Rule → Option Rule
  | constructed rule => some rule
  | _ => none

/-- The rules constructed during a run, in order. -/
def constructions (events : List (Event Rule)) : List Rule :=
  events.filterMap constructed?

@[simp]
theorem constructions_append (xs ys : List (Event Rule)) :
    constructions (xs ++ ys) = constructions xs ++ constructions ys :=
  List.filterMap_append

/-- Whether an event is about failures only, and not about what was run or constructed. -/
def isAccount : Event Rule → Bool
  | reported _ | furthest _ | concluded _ => true
  | constructed _ | entered _ _ | left _ _ | missed _ _ => false

theorem isAccount_of_mem_observe {t : Tracker} {failure : Failure} {event : Event Rule}
    (h : event ∈ (t.observe failure).1) : event.isAccount := by
  unfold Tracker.observe at h
  by_cases haccepts : t.accepts failure = true
  · rw [if_pos haccepts] at h
    obtain rfl | rfl : event = reported failure ∨ event = furthest failure := by simpa using h
    · rfl
    · rfl
  · rw [if_neg haccepts] at h
    rw [List.mem_singleton.mp h]
    rfl

theorem isAccount_of_mem_map_furthest {failures : List Failure} {event : Event Rule}
    (h : event ∈ failures.map furthest) : event.isAccount := by
  obtain ⟨failure, -, rfl⟩ := List.mem_map.mp h
  rfl

theorem constructions_eq_nil {events : List (Event Rule)} (h : ∀ event ∈ events, event.isAccount) :
    constructions events = [] := by
  apply List.filterMap_eq_nil_iff.mpr
  intro event hevent
  have haccount := h event hevent
  cases event with
  | reported | furthest | concluded => rfl
  | constructed | entered | left | missed => cases haccount

@[simp]
theorem constructions_observe (t : Tracker) (failure : Failure) :
    constructions (t.observe failure : List (Event Rule) × Tracker).1 = [] :=
  constructions_eq_nil fun _ => isAccount_of_mem_observe

@[simp]
theorem constructions_construction (rule : Rule) (failures : List Failure) :
    constructions (constructed rule :: failures.map furthest) = [rule] :=
  congrArg (rule :: ·) (constructions_eq_nil fun _ => isAccount_of_mem_map_furthest)

end Event

namespace Coupling

/-- A run of a body and one of its unfolding, at the end of a way of nodes. -/
def unfolding (watch : Node S) (within : List (Nat × S.Rule)) : Coupling S S.unfolded where
  offsets := Eq
  trackers := Eq
  cells cells cells' := cells' = cells.unfolded watch within
  events xs ys := Event.constructions xs = (Event.constructions ys).map Node.rule
  events_nil := rfl
  events_append := by
    intro xs xs' ys ys' hx hy
    rw [Event.constructions_append, Event.constructions_append, List.map_append, hx, hy]

variable {watch : Node S} {within : List (Nat × S.Rule)}

theorem unfolding_observing : (unfolding watch within).Observing := by
  rintro offset _ t _ expected rfl rfl
  exact ⟨by simp [unfolding], rfl⟩

theorem unfolding_probe_left (event : Event S.Rule) (h : event.isProbe) :
    (unfolding watch within).events [event] [] := by
  cases event <;> cases h <;> rfl

theorem unfolding_probe_right (event : Event (Node S)) (h : event.isProbe) :
    (unfolding watch within).events [] [event] := by
  cases event <;> cases h <;> rfl

end Coupling

theorem Cells.opening_unfolded (cells : Cells S) (grammar : Grammar S) (watch node : Node S) :
    let opening := cells.opening grammar node.slot node.rule
    let opening' :=
      (cells.unfolded watch node.within).opening (grammar.unfolded watch) node.slot node
    opening'.body = opening.body.unfolded watch node.way ∧
      opening'.inner = opening.inner.unfolded watch node.way ∧
      (Coupling.unfolding watch node.within).events opening.events opening'.events := by
  unfold opening
  rw [find?_unfolded]
  cases cells.find? node.slot node.rule with
  | some found => exact ⟨rfl, rfl, rfl⟩
  | none =>
    refine ⟨rfl, rfl, ?_⟩
    simp [Coupling.unfolding]

namespace Parser

variable {α : Type} {grammar : Grammar S} {input : Text} {watch : Node S}
  {call : (α : Type) → Parser S α → Action S α}
  {call' : (α : Type) → Parser S.unfolded α → Action S.unfolded α}

theorem unfolding_simulates_lazy (node : Node S)
    (hcall : ∀ {β : Type} (body : Parser S β), (Coupling.unfolding watch node.way).Simulates
      (call β body) (call' β (body.unfolded watch node.way))) :
    (Coupling.unfolding watch node.within).Simulates (.lazy grammar call node.slot node.rule)
      (.lazy (S := S.unfolded) (grammar.unfolded watch) call' node.slot node) := by
  rw [Action.lazy_eq_enclosed, Action.lazy_eq_enclosed]
  apply Coupling.simulates_enclosed (Coupling.unfolding watch node.way).cells
  · rintro cells _ rfl
    obtain ⟨hbody, hinner, hevents⟩ := cells.opening_unfolded grammar watch node
    refine ⟨hinner, hevents, ?_⟩
    dsimp only
    rw [hbody]
    exact hcall _
  · rintro cells _ inner _ rfl rfl
    obtain ⟨hbody, -, -⟩ := cells.opening_unfolded grammar watch node
    dsimp only
    rw [hbody]
    exact (cells.put_unfolded node _ inner).symm

theorem unfolding_simulates_action (fuel : Nat)
    (hcall : ∀ {β : Type} (within : List (Nat × S.Rule)) (body : Parser S β),
      (Coupling.unfolding watch within).Simulates (call β body)
        (call' β (body.unfolded watch within)))
    (within : List (Nat × S.Rule)) (p : Parser S α) :
    (Coupling.unfolding watch within).Simulates (p.action grammar input call fuel)
      ((p.unfolded watch within).action (grammar.unfolded watch) input call' fuel) := by
  have hobserving : (Coupling.unfolding watch within).Observing := Coupling.unfolding_observing
  induction p with
  | lexeme l => exact Coupling.simulates_lexeme (.of_eq rfl input) hobserving l
  | endOfInput => exact Coupling.simulates_endOfInput (.of_eq rfl input) hobserving
  | always value => exact Coupling.simulates_yield value
  | never expected => exact Coupling.simulates_failing hobserving expected
  | currentOffset => exact Coupling.simulates_currentOffset rfl
  | map f p ih => exact ih.map f
  | bind p next ihp ihn => exact ihp.bind ihn
  | zipWith f p q ihp ihq => exact ihp.bind fun a => ihq.map (f a)
  | orElse p q ihp ihq => exact ihp.orElse ihq
  | times p bounds ih => exact ih.times bounds (Nat.le_refl fuel)
  | lazy slot rule =>
    let node : Node S := { within, slot, rule }
    have hlazy : (Coupling.unfolding watch within).Simulates (.lazy grammar call slot rule)
        (.lazy (S := S.unfolded) (grammar.unfolded watch) call' slot node) :=
      unfolding_simulates_lazy node (hcall node.way)
    unfold unfolded
    dsimp only
    split
    · exact hlazy.probed_right Coupling.unfolding_probe_right "node"
    · exact hlazy
  | probe name p ih => exact ih.probed_left Coupling.unfolding_probe_left name
  | custom act => exact Coupling.simulates_custom hobserving rfl rfl act
  | fault cause => exact Coupling.simulates_faulting cause

theorem unfolding_simulates_runWithin (within : List (Nat × S.Rule)) (fuel : Nat)
    (p : Parser S α) :
    (Coupling.unfolding watch within).Simulates (p.runWithin grammar input fuel)
      ((p.unfolded watch within).runWithin (grammar.unfolded watch) input fuel) := by
  induction fuel generalizing α within with
  | zero => exact Coupling.simulates_unfinished
  | succ fuel ih => exact unfolding_simulates_action fuel (fun way body => ih way body) within p

end Parser

end Descent
