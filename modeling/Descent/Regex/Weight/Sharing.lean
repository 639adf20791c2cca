import Descent.Regex.Encoding
import Descent.Regex.Weight.Tally
import Std.Data.HashMap

/-!
# Sharing of states

The automaton of a class goes through the byte sequences of the class one after the other, and
takes a state that it has already made wherever one would do. Made states are remembered in a table
with a limited number of slots. A state's slot depends on the numbers of the states that it leads
to, and a state pushes out the one that was in its slot before; so how much is shared depends on
how many states have been made before the class.
-/

namespace Descent.Regex

/-- A table of states, each under the numbers that tell what it does. -/
structure Slots where
  size : Nat
  entries : Std.HashMap Nat (List Nat × Nat)

namespace Slots

def ofSize (size : Nat) : Slots where
  size := size
  entries := ∅

/-- The numbers mixed one by one, by exclusive or and multiplication with a prime in 64 bits. -/
def mix (key : List Nat) : UInt64 :=
  key.foldl (fun mixed n => (mixed ^^^ n.toUInt64) * 1099511628211) 14695981039346656037

def slot (slots : Slots) (key : List Nat) : Nat :=
  (mix key).toNat % slots.size

/-- The state that does what the key tells, unless it has been pushed out. -/
def find? (slots : Slots) (key : List Nat) : Option Nat :=
  match slots.entries[slots.slot key]? with
  | some (found, state) => if found = key then some state else none
  | none => none

def put (slots : Slots) (key : List Nat) (state : Nat) : Slots :=
  { slots with entries := slots.entries.insert (slots.slot key) (key, state) }

end Slots

/-- The states tallied so far and those of them that can be shared. -/
structure Sharing where
  tally : Tally
  slots : Slots

namespace Sharing

/-- A state that does what the key tells: one that has been made already, or else a new one. -/
def state (key : List Nat) (weight : Nat) : StateM Sharing Nat := fun sharing =>
  match sharing.slots.find? key with
  | some state => (state, sharing)
  | none =>
    let state := sharing.tally.states
    (state, { tally := sharing.tally.add weight, slots := sharing.slots.put key state })

/-- The state from which sequences are read, each to its end in the target. The states that it leads
to are made before it. -/
def reading (target : Nat) : Nat → List (List ByteRange) → StateM Sharing Nat
  | 0, _ => return target
  | steps + 1, sequences => do
    let ways ← (Encoding.branches sequences).mapM fun ((low, high), tails) => do
      let next ← if tails = [[]] then pure target else reading target steps tails
      return [low, high, next]
    state ways.flatten (Tally.branching ways.length)

def forward (sequences : List (List ByteRange)) (tally : Tally) : Tally :=
  let target := tally.states
  let start : Sharing := { tally := tally.add Tally.plain, slots := .ofSize 10000 }
  (reading target 4 sequences start).2.tally

/-- The states of a class that is read backward. Sequences are put down from their beginnings, and
one state chooses among all of them. -/
def backward (sequences : List (List ByteRange)) (tally : Tally) : Tally :=
  let target := tally.states + 1
  let start : Sharing :=
    { tally := (tally.add (Tally.choice sequences.length)).add Tally.plain
      slots := .ofSize 1000 }
  let path (sequence : List ByteRange) : StateM Sharing Nat :=
    sequence.foldlM (fun next (low, high) => state [next, low, high] Tally.plain) target
  (sequences.foldl (fun sharing sequence => (path sequence sharing).2) start).tally

end Sharing

end Descent.Regex
