import Descent.Regex.Outline

/-!
# Trees of regular expressions

What a matcher makes of an expression before it is drafted. The constructors to use are `ofClass`,
`concatAll`, `alternateAll` and `repeated`; they keep trees in a normal form.

* A literal is not empty. A concatenation has its parts along the right, at least two of them,
  none of which is empty or a concatenation, nor are two neighbours both literals.
* An alternation has its options along the right, at least two of them, none of which is an
  alternation.
* A repetition is neither of no rounds nor of exactly one.

Alternatives that all start with the same parts are joined behind those parts. A match then takes
them once, in their own order of preference, before it chooses between the alternatives.
-/

namespace Descent.Regex

inductive Direction where
  | forward
  | backward
deriving DecidableEq, Repr

inductive Tree where
  | empty
  | literal (s : List Char)
  | one (c : CharClass)
  | assertion (a : Assertion)
  | capture (index : Nat) (body : Tree)
  | concat (a b : Tree)
  | alternate (a b : Tree)
  | repetition (r : Repetition) (body : Tree)
deriving DecidableEq, Repr

namespace Tree

/-- The fewest characters a match can take. There is no number if an empty class decides. -/
def shortest? : Tree → Option Nat
  | empty | assertion _ => some 0
  | literal s => some s.length
  | one c => if c = .empty then none else some 1
  | capture _ body => body.shortest?
  | concat a b => do return (← a.shortest?) + (← b.shortest?)
  | alternate a b => do return min (← a.shortest?) (← b.shortest?)
  | repetition r body => do return (← body.shortest?) * r.least

/-- The most characters a match can take, if there is a bound. -/
def longest? : Tree → Option Nat
  | empty | assertion _ => some 0
  | literal s => some s.length
  | one c => if c = .empty then none else some 1
  | capture _ body => body.longest?
  | concat a b => do return (← a.longest?) + (← b.longest?)
  | alternate a b => do return max (← a.longest?) (← b.longest?)
  | repetition r body => do return (← body.longest?) * max r.least (← r.most)

def consumes (t : Tree) : Bool :=
  t.shortest?.any (0 < ·)

def isStill (t : Tree) : Bool :=
  t.longest? == some 0

/-- Whether every match has to begin at the start of the text, or, seen backward, to finish at its
end. -/
def isTied (direction : Direction) : Tree → Bool
  | assertion a =>
    match direction with
    | .forward => a == .textStart
    | .backward => a == .textEnd
  | capture _ body => body.isTied direction
  | concat a b =>
    match direction with
    | .forward => a.isTied direction || (a.isStill && b.isTied direction)
    | .backward => b.isTied direction || (b.isStill && a.isTied direction)
  | alternate a b => a.isTied direction && b.isTied direction
  | repetition r body => 0 < r.least && body.isTied direction
  | _ => false

/-- A class with one member is a literal. -/
def ofClass (c : CharClass) : Tree :=
  match c.only? with
  | some only => literal [only]
  | none => one c

/-- The parts of a concatenation; any other tree is its own only part. -/
def parts : Tree → List Tree
  | empty => []
  | concat a b => a :: b.parts
  | t => [t]

def ofParts : List Tree → Tree
  | [] => empty
  | [t] => t
  | t :: ts => concat t (ofParts ts)

def joinLiterals : List Tree → List Tree
  | [] => []
  | t :: ts =>
    match t, joinLiterals ts with
    | literal s, literal s' :: rest => literal (s ++ s') :: rest
    | t, rest => t :: rest

def concatAll (ts : List Tree) : Tree :=
  ofParts (joinLiterals (ts.flatMap parts))

/-- The options of an alternation; any other tree is its own only option. -/
def options : Tree → List Tree
  | alternate a b => a :: b.options
  | t => [t]

def ofOptions : List Tree → Tree
  | [] => one .empty
  | [t] => t
  | t :: ts => alternate t (ofOptions ts)

def singleton? : Tree → Option CharClass
  | literal [c] => some (.single c)
  | _ => none

def class? : Tree → Option CharClass
  | one c => some c
  | _ => none

/-- Chooses between options. Single characters, or else classes, make up one class. -/
def chooseFrom (ts : List Tree) : Tree :=
  match ts with
  | [] | [_] => ofOptions ts
  | ts =>
    match (ts.mapM singleton?).or (ts.mapM class?) with
    | some classes => ofClass (classes.foldl .union .empty)
    | none => ofOptions ts

def commonPrefix : List Tree → List Tree → List Tree
  | a :: as, b :: bs => if a = b then a :: commonPrefix as bs else []
  | _, _ => []

/-- The parts with which all options start, if all of them are concatenations. -/
def sharedStart : List Tree → List Tree
  | [] => []
  | t :: ts =>
    if (t :: ts).all (2 ≤ ·.parts.length) then
      ts.foldl (fun shared u => commonPrefix shared u.parts) t.parts
    else []

def alternateAll (ts : List Tree) : Tree :=
  let choices := ts.flatMap options
  match choices, sharedStart choices with
  | [t], _ => t
  | choices, [] => chooseFrom choices
  | choices, shared =>
    let rests := choices.map fun t => ofParts (t.parts.drop shared.length)
    concatAll (shared ++ [chooseFrom (rests.flatMap options)])

def choose : List Tree → Tree
  | [t] => t
  | ts => alternateAll ts

/-- Repeats a tree. Where no round takes characters, one round is as good as more. -/
def repeated (r : Repetition) (body : Tree) : Tree :=
  let r :=
    if body.isStill then { r with least := min r.least 1, most := some (min (r.most.getD 1) 1) }
    else r
  if r.least = 0 ∧ r.most = some 0 then empty
  else if r.least = 1 ∧ r.most = some 1 then body
  else repetition r body

/-- The trees of the options of an expression; one that is no alternation is its only option. -/
def optionsOf : Expr → List Tree
  | .empty => [empty]
  | .one c => [ofClass c]
  | .assertion a => [assertion a]
  | .group body => [choose (optionsOf body)]
  | .capture index body => [capture index (choose (optionsOf body))]
  | .concat a b => [concatAll [choose (optionsOf a), choose (optionsOf b)]]
  | .alternate a b => choose (optionsOf a) :: optionsOf b
  | .repetition r body => [(choose (optionsOf body)).repeated r]

def ofExpr (e : Expr) : Tree :=
  choose (optionsOf e)

def ofSource (source : List Char) : Except Error Tree :=
  (Expr.ofSource source).map ofExpr

end Tree

end Descent.Regex
