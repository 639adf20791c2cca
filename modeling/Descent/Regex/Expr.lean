import Descent.Regex.Token

/-!
# Regular expressions as they are written

The parts of an expression in the order in which they stand in its source. Nothing is joined or left
out: what an expression means, and which match it prefers, is told from its parts.
-/

namespace Descent.Regex

inductive Expr where
  | empty
  /-- A character of a class. A character that stands for itself is a class of its own. -/
  | one (c : CharClass)
  | assertion (a : Assertion)
  | group (body : Expr)
  | capture (index : Nat) (body : Expr)
  | concat (a b : Expr)
  | alternate (a b : Expr)
  | repetition (r : Repetition) (body : Expr)
deriving DecidableEq, Repr

namespace Expr

def ofItems : List Expr → Expr
  | [] => empty
  | [e] => e
  | e :: es => concat e (ofItems es)

/-- Where there is nothing to choose from, nothing matches. -/
def ofOptions : List Expr → Expr
  | [] => one .empty
  | [e] => e
  | e :: es => alternate e (ofOptions es)

/-- The numbers of the capture groups, in the order in which their parentheses are opened. -/
def groups : Expr → List Nat
  | empty | one _ | assertion _ => []
  | capture index body => index :: body.groups
  | concat a b | alternate a b => a.groups ++ b.groups
  | group body | repetition _ body => body.groups

end Expr

end Descent.Regex
