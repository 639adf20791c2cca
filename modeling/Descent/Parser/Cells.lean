import Descent.Parser

/-!
# Cells of lazy nodes

A lazy node constructs the body of its rule once and keeps it. A body that has been constructed
contains lazy nodes of its own, so the cells form a tree: each holds a body together with the cells
of the nodes in that body. Cells outlive a run; later runs of the same parser find them filled.

A cell is found by where its node stands, not by who holds the node. Two ways to build a parser are
not followed in this: a continuation of a `bind` that makes a new node whenever it runs would
construct the rule each time, and clones of one node that several bodies capture would share one
cell. They come to the same outcomes; only how often a rule is constructed differs.
-/

namespace Descent

/-- The cells of the nodes of one body. A node without a cell has not run yet. -/
inductive Cells (S : Signature) : Type 1 where
  | empty
  | cell (slot : Nat) (rule : S.Rule) (body : Parser S (S.Result rule)) (inner rest : Cells S)

namespace Cells

variable {S : Signature}

/-- The body that a node keeps, and the cells inside it. -/
def find? (cells : Cells S) (slot : Nat) (rule : S.Rule) :
    Option (Parser S (S.Result rule) × Cells S) :=
  match cells with
  | empty => none
  | cell slot' rule' body inner rest =>
    if h : slot' = slot ∧ rule' = rule then some (h.2 ▸ body, inner) else rest.find? slot rule

/-- Puts a body and the cells inside it into the cell of a node. -/
def put (cells : Cells S) (slot : Nat) (rule : S.Rule) (body : Parser S (S.Result rule))
    (inner : Cells S) : Cells S :=
  match cells with
  | empty => cell slot rule body inner empty
  | cell slot' rule' body' inner' rest =>
    if slot' = slot ∧ rule' = rule then cell slot rule body inner rest
    else cell slot' rule' body' inner' (rest.put slot rule body inner)

theorem find?_put_self (cells : Cells S) (slot : Nat) (rule : S.Rule)
    (body : Parser S (S.Result rule)) (inner : Cells S) :
    (cells.put slot rule body inner).find? slot rule = some (body, inner) := by
  induction cells with
  | empty => simp [put, find?]
  | cell slot' rule' body' inner' rest _ ih =>
    by_cases h : slot' = slot ∧ rule' = rule
    · simp [put, find?, h]
    · simp [put, find?, h, ih]

end Cells

end Descent
