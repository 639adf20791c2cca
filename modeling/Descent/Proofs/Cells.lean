import Descent.Parser.Run

/-!
# Faithful cells

Cells are faithful to a grammar if every body in them is that of its rule. A lazy node opens its
cell, or constructs the body of its rule, and closes it with what the run of the body leaves.
-/

namespace Descent

variable {S : Signature}

namespace Cells

variable {grammar : Grammar S}

/-- Every cell holds the body of its own rule, and so do the cells inside. -/
def Faithful (grammar : Grammar S) : Cells S → Prop
  | empty => True
  | cell _ rule body inner rest =>
    body = grammar.body rule ∧ inner.Faithful grammar ∧ rest.Faithful grammar

@[simp]
theorem faithful_empty : (empty : Cells S).Faithful grammar :=
  trivial

theorem find?_put_of_ne {slot slot' : Nat} {rule rule' : S.Rule}
    (h : ¬ (slot = slot' ∧ rule = rule')) (cells : Cells S) (body : Parser S (S.Result rule))
    (inner : Cells S) :
    (cells.put slot rule body inner).find? slot' rule' = cells.find? slot' rule' := by
  induction cells with
  | empty => simp [put, find?, h]
  | cell slot'' rule'' body' inner' rest _ ih =>
    by_cases hsame : slot'' = slot ∧ rule'' = rule
    · obtain ⟨rfl, rfl⟩ := hsame
      simp [put, find?, h]
    · simp [put, find?, hsame, ih]

theorem Faithful.find? {cells inner : Cells S} {slot : Nat} {rule : S.Rule}
    {body : Parser S (S.Result rule)} (h : cells.Faithful grammar)
    (hf : cells.find? slot rule = some (body, inner)) :
    body = grammar.body rule ∧ inner.Faithful grammar := by
  induction cells with
  | empty => simp [Cells.find?] at hf
  | cell slot' rule' body' inner' rest _ ih =>
    obtain ⟨hbody, hinner, hrest⟩ := h
    unfold Cells.find? at hf
    split at hf
    · next hsame =>
      obtain ⟨rfl, rfl⟩ := hsame
      cases hf
      exact ⟨hbody, hinner⟩
    · exact ih hrest hf

theorem Faithful.put {cells inner : Cells S} (h : cells.Faithful grammar)
    (hinner : inner.Faithful grammar) (slot : Nat) (rule : S.Rule) :
    (cells.put slot rule (grammar.body rule) inner).Faithful grammar := by
  induction cells with
  | empty => exact ⟨rfl, hinner, trivial⟩
  | cell slot' rule' body' inner' rest _ ih =>
    obtain ⟨hbody, hinner', hrest⟩ := h
    unfold Cells.put
    split
    · exact ⟨rfl, hinner, hrest⟩
    · exact ⟨hbody, hinner', ih hrest⟩

end Cells

/-- What a lazy node runs, the cells inside it, and what is observed if it is constructed now. -/
structure Opening (S : Signature) (rule : S.Rule) : Type 1 where
  body : Parser S (S.Result rule)
  inner : Cells S
  events : List (Event S.Rule)

def Cells.opening (cells : Cells S) (grammar : Grammar S) (slot : Nat) (rule : S.Rule) :
    Opening S rule :=
  match cells.find? slot rule with
  | some (body, inner) => { body, inner, events := [] }
  | none =>
    { body := grammar.body rule, inner := .empty,
      events := .constructed rule :: (grammar.foreign rule).map .furthest }

theorem Cells.Faithful.opening {cells : Cells S} {grammar : Grammar S}
    (h : cells.Faithful grammar) (slot : Nat) (rule : S.Rule) :
    (cells.opening grammar slot rule).body = grammar.body rule ∧
      (cells.opening grammar slot rule).inner.Faithful grammar := by
  unfold Cells.opening
  split
  · next body inner hfind => exact h.find? hfind
  · exact ⟨rfl, Cells.faithful_empty⟩

theorem Cells.opening_events (cells : Cells S) (grammar : Grammar S) (slot : Nat) (rule : S.Rule) :
    (cells.opening grammar slot rule).events = [] ∨
      (cells.opening grammar slot rule).events =
        .constructed rule :: (grammar.foreign rule).map .furthest := by
  unfold Cells.opening
  split
  · exact .inl rfl
  · exact .inr rfl

theorem Cells.Faithful.closing {cells inner : Cells S} {grammar : Grammar S}
    (h : cells.Faithful grammar) (hinner : inner.Faithful grammar) (slot : Nat) (rule : S.Rule) :
    (cells.put slot rule (cells.opening grammar slot rule).body inner).Faithful grammar := by
  rw [(h.opening slot rule).1]
  exact h.put hinner slot rule

/-- Puts what the run of a body leaves into the cell of its node. -/
def Run.closing {α : Type} (run : Run S α) (cells : Cells S) (slot : Nat) {rule : S.Rule}
    (opening : Opening S rule) : Run S α where
  outcome := run.outcome
  events := opening.events ++ run.events
  memory :=
    { run.memory with cells := cells.put slot rule opening.body run.memory.cells }

theorem Action.lazy_eq (grammar : Grammar S) (call : (α : Type) → Parser S α → Action S α)
    (slot : Nat) (rule : S.Rule) (offset : Nat) (memory : Memory S) :
    lazy grammar call slot rule offset memory =
      let opening := memory.cells.opening grammar slot rule
      (call _ opening.body offset { memory with cells := opening.inner }).map fun run =>
        run.closing memory.cells slot opening := by
  unfold lazy Cells.opening
  cases memory.cells.find? slot rule with
  | none => exact Option.map_eq_bind.symm
  | some found => exact Option.map_eq_bind.symm

/-- What an action is about to do with cells of its own: those it starts with, what is observed
before, and what becomes of the cells around when it has left its own. -/
structure Enclosure (S : Signature) (α : Type) : Type 1 where
  action : Action S α
  cells : Cells S
  events : List (Event S.Rule)
  finish : Cells S → Cells S

def Action.enclosed {α : Type} (enclosure : Cells S → Enclosure S α) : Action S α :=
  fun offset memory =>
    let enclosure := enclosure memory.cells
    (enclosure.action offset { memory with cells := enclosure.cells }).map fun run =>
      { outcome := run.outcome
        events := enclosure.events ++ run.events
        memory := { run.memory with cells := enclosure.finish run.memory.cells } }

theorem Action.lazy_eq_enclosed (grammar : Grammar S)
    (call : (α : Type) → Parser S α → Action S α) (slot : Nat) (rule : S.Rule) :
    lazy grammar call slot rule = enclosed fun cells =>
      let opening := cells.opening grammar slot rule
      { action := call _ opening.body, cells := opening.inner, events := opening.events,
        finish := cells.put slot rule opening.body } := by
  funext offset memory
  exact lazy_eq grammar call slot rule offset memory

end Descent
