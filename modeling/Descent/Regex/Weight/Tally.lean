/-!
# Tallies

Automata are not made to be weighed. Their states are tallied: how many there are, which gives the
next one its number, and how much memory they take together.
-/

namespace Descent.Regex

structure Tally where
  states : Nat
  weight : Nat
deriving DecidableEq, Repr

namespace Tally

def empty : Tally where
  states := 0
  weight := 0

/-- A state that goes on in one way, or ends a match. -/
def plain : Nat := 32

/-- A state that accepts several bytes holds a range and a target for each way on. -/
def branching (ways : Nat) : Nat :=
  plain + 8 * ways

/-- A state that goes on in several ways without a byte holds their targets. -/
def choice (ways : Nat) : Nat :=
  plain + 4 * ways

def add (tally : Tally) (weight : Nat) : Tally where
  states := tally.states + 1
  weight := tally.weight + weight

def addPlain (tally : Tally) (count : Nat) : Tally where
  states := tally.states + count
  weight := tally.weight + plain * count

end Tally

end Descent.Regex
