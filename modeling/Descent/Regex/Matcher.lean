import Descent.Regex.Place
import Descent.Regex.Program
import Descent.Regex.StateSet

/-!
# Matching by preference

Finds the match of a program that starts at a place and is preferred among those that do. All ways
to match are followed side by side, character by character, in their order of preference. Two ways
that come to the same state at the same place go on alike, and so only the first one is followed;
with that, the work at a place is bounded by the number of states, and loops whose rounds take no
characters end.
-/

namespace Descent.Regex

/-- The marks that a match went through and where they were, the last one first. -/
abbrev Trail := List (Mark × Nat)

/-- A way to match: the state it has come to. -/
structure Thread where
  state : Nat
  trail : Trail
deriving DecidableEq, Repr

/-- Where the threads have come to at a place. Those that wait for a character stand in the order of
preference; if there is a trail of a match that ends here, they are all preferred to it. -/
structure Frontier where
  waiting : List (CharClass × Thread)
  accepted : Option Trail

def Frontier.step (frontier : Frontier) (c : Char) : List Thread :=
  frontier.waiting.filterMap fun (members, thread) =>
    if members.contains c then some thread else none

namespace Program

/-- Follows threads to the states in which they need a character, the first thread first. `seen` are
the states that have been visited at this place; `waiting` stands last first. -/
def explore (program : Program) (place : Place) (seen : StateSet)
    (waiting : List (CharClass × Thread)) : List Thread → Frontier
  | [] => { waiting := waiting.reverse, accepted := none }
  | { state, trail } :: threads =>
    if h : state < program.states.size ∧ seen.contains state = false then
      have inside := h.1
      let seen := seen.insert state
      match program.states[state] with
      | .accept => { waiting := waiting.reverse, accepted := some trail }
      | .one c next =>
        explore program place seen ((c, { state := next, trail }) :: waiting) threads
      | .assertion a next =>
        if place.satisfies a then
          explore program place seen waiting ({ state := next, trail } :: threads)
        else explore program place seen waiting threads
      | .mark m next =>
        explore program place seen waiting
          ({ state := next, trail := (m, place.index) :: trail } :: threads)
      | .fork first second =>
        explore program place seen waiting
          ({ state := first, trail } :: { state := second, trail } :: threads)
    else explore program place seen waiting threads
termination_by threads => 2 * StateSet.unseen program.states.size seen + threads.length
decreasing_by
  all_goals simp only [List.length_cons]
  all_goals first | have := StateSet.unseen_insert_lt h.1 h.2; omega | omega

/-- Where a match ends, and its trail. -/
structure Finish where
  stop : Nat
  trail : Trail
deriving DecidableEq, Repr

/-- Follows threads to the end of the preferred match. A match that ends later comes from a thread
that was preferred to all earlier matches. -/
def run (program : Program) (place : Place) (threads : List Thread) (best : Option Finish) :
    Option Finish :=
  let frontier := program.explore place ∅ [] threads
  let best := (frontier.accepted.map fun trail => { stop := place.index, trail }).or best
  match _h : place.rest with
  | [] => best
  | c :: rest =>
    match frontier.step c with
    | [] => best
    | threads =>
      program.run (place.advance c rest) threads best
termination_by place.rest.length
decreasing_by exact Place.length_advance_lt _h

end Program

end Descent.Regex
