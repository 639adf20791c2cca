import Descent.Regex.Tree

/-!
# Programs of a matcher

Numbered states that say how a match goes on. The states of a tree are drafted from the end of the
expression to its beginning, so that every state is made when it is known what follows it. Only a
loop needs a state before its body; it is put in first and completed afterwards.

Which states two ways of matching have in common matters: a place of the text is visited only once
in each state. A loop whose body takes characters is entered where its rounds end; one whose body
may take none has a state of its own to enter it.
-/

namespace Descent.Regex

/-- The ends of a group, noted when a match goes through them. -/
inductive Mark where
  | opening (group : Nat)
  | closing (group : Nat)
deriving DecidableEq, Repr

inductive State where
  | accept
  | one (c : CharClass) (next : Nat)
  | assertion (a : Assertion) (next : Nat)
  | mark (m : Mark) (next : Nat)
  /-- Goes on with `first`, or else with `second`. -/
  | fork (first second : Nat)
deriving DecidableEq, Repr

/-- A fork between going on with more rounds and with no more; `many` is the preference. -/
def State.preferring (many : Bool) (more enough : Nat) : State :=
  if many then fork more enough else fork enough more

structure Program where
  states : Array State
  start : Nat

/-- States being drafted; a draft of an expression gives the state at which it begins. -/
abbrev Draft := StateM (Array State)

namespace Draft

def add (state : State) : Draft Nat := fun states =>
  (states.size, states.push state)

/-- So many copies of a body, one after the other, before `next`. -/
def copies (body : Nat → Draft Nat) : Nat → Nat → Draft Nat
  | 0, next => fun states => (next, states)
  | count + 1, next => fun states =>
    let (entry, states) := body next states
    copies body count entry states

/-- At most `count` copies of a body, each on the condition that those before it matched. -/
def optionals (many : Bool) (body : Nat → Draft Nat) (next : Nat) (count : Nat) : Draft Nat :=
  copies (fun later => do add (.preferring many (← body later) next)) count next

/-- The body once and then as often as it will. Gives the beginning of the body and the state in
which a round ends. -/
def loop (many : Bool) (body : Nat → Draft Nat) (next : Nat) : Draft (Nat × Nat) := do
  let back ← add (.fork next next)
  let entry ← body back
  modify (·.setIfInBounds back (.preferring many entry next))
  return (entry, back)

/-- An unbounded repetition ends in a loop around its last required copy. -/
def repetition (r : Repetition) (consumes : Bool) (body : Nat → Draft Nat) (next : Nat) :
    Draft Nat := do
  match r.most, r.least with
  | some most, least => copies body least (← optionals r.many body next (most - least))
  | none, least + 1 => copies body least (← loop r.many body next).1
  | none, 0 =>
    let (entry, back) ← loop r.many body next
    if consumes then return back else add (.preferring r.many entry next)

def ofTree : Tree → Nat → Draft Nat
  | .empty, next => return next
  | .literal s, next => s.foldrM (fun c next => add (.one (.single c) next)) next
  | .one c, next => add (.one c next)
  | .assertion a, next => add (.assertion a next)
  | .capture index body, next => do
    let entry ← ofTree body (← add (.mark (.closing index) next))
    add (.mark (.opening index) entry)
  | .concat a b, next => do ofTree a (← ofTree b next)
  | .alternate a b, next => do
    let first ← ofTree a next
    let second ← ofTree b next
    add (.fork first second)
  | .repetition r body, next => repetition r body.consumes (ofTree body) next

end Draft

namespace Program

def ofTree (tree : Tree) : Program :=
  let (start, states) := (do Draft.ofTree tree (← Draft.add .accept)) |>.run #[]
  { states, start }

end Program

end Descent.Regex
