import Descent.Bounds
import Descent.Lexeme
import Descent.Outcome
import Descent.Tracker

/-!
# Parsers

Parsers as data. Those of the first lines look at the input themselves; the others combine smaller
ones. A parser may refer to a rule of the grammar it belongs to, which makes recursion possible.
-/

namespace Descent

/-- The rules of a grammar by name, with the type of value that each one parses. -/
structure Signature where
  Rule : Type
  Result : Rule → Type
  decEq : DecidableEq Rule

attribute [instance] Signature.decEq

/-- A parser of values of type `α` that may refer to the rules of `S`. -/
inductive Parser (S : Signature) : Type → Type 1 where
  | lexeme {α : Type} (l : Lexeme α) : Parser S α
  | endOfInput : Parser S Unit
  | always {α : Type} (value : α) : Parser S α
  | never {α : Type} (expected : String) : Parser S α
  | currentOffset : Parser S Nat
  | map {α β : Type} (f : α → β) (p : Parser S α) : Parser S β
  | bind {α β : Type} (p : Parser S α) (next : α → Parser S β) : Parser S β
  | zipWith {α β γ : Type} (f : α → β → γ) (p : Parser S α) (q : Parser S β) : Parser S γ
  /-- Tries `q` at the same offset if `p` fails. -/
  | orElse {α : Type} (p q : Parser S α) : Parser S α
  /-- Repeats until a failure or the upper bound; failures below the lower bound count. -/
  | times {α : Type} (p : Parser S α) (bounds : Bounds) : Parser S (List α)
  /-- A rule that is constructed on the first run and kept. Nodes of one body are told apart by
  their slots; nodes with the same slot and rule are the same node. So a node that the second part
  of a `bind` makes afresh for each value is the same one each time and keeps what it constructed,
  and one node whose clones stand in several bodies is a node of its own in each of them. -/
  | lazy (slot : Nat) (rule : S.Rule) : Parser S (S.Result rule)
  /-- Runs `p` and records how that began and ended. -/
  | probe {α : Type} (name : String) (p : Parser S α) : Parser S α
  /-- A matching function of one's own. It sees the input, the tracker and the offset, and answers
  with the failures that it reports and an outcome, which is taken as it stands. -/
  | custom {α : Type} (act : Text → Tracker → Nat → List Failure × Outcome α) : Parser S α
  | fault {α : Type} (cause : Fault) : Parser S α

/-- The body of every rule, and the failures that trackers of their own take in while the body is
constructed. -/
structure Grammar (S : Signature) where
  body : (rule : S.Rule) → Parser S (S.Result rule)
  foreign : S.Rule → List Failure

end Descent
