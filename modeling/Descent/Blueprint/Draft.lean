import Descent.Outcome

/-!
# Drafts

Constructing a parser from a blueprint: lazy nodes are numbered as they come, failures made in
trackers of their own are noted, and the first mistake ends the construction.
-/

namespace Descent

inductive Refusal where
  | error (error : GrammarError)
  | fault (fault : Fault)
deriving DecidableEq, Repr

/-- The slots given out, and the foreign failures, the last one first. -/
structure Draft.Progress where
  slots : Nat
  foreign : List Failure
deriving DecidableEq, Repr

def Draft (α : Type 1) : Type 1 :=
  Draft.Progress → Except Refusal α × Draft.Progress

namespace Draft

variable {α β : Type 1}

def done (value : α) : Draft α := fun progress => (.ok value, progress)

def refuse (refusal : Refusal) : Draft α := fun progress => (.error refusal, progress)

def andThen (draft : Draft α) (next : α → Draft β) : Draft β := fun progress =>
  match draft progress with
  | (.ok value, progress) => next value progress
  | (.error refusal, progress) => (.error refusal, progress)

instance : Monad Draft where
  pure := done
  bind := andThen

def withSlot (f : Nat → α) : Draft α := fun progress =>
  (.ok (f progress.slots), { progress with slots := progress.slots + 1 })

/-- Notes a failure reported to a tracker of its own. -/
def noting (failure : Failure) (value : α) : Draft α := fun progress =>
  (.ok value, { progress with foreign := failure :: progress.foreign })

def ofGrammar : Except GrammarError α → Draft α
  | .ok value => done value
  | .error error => refuse (.error error)

def ofFault : Except Fault α → Draft α
  | .ok value => done value
  | .error fault => refuse (.fault fault)

/-- What a construction came to, and the foreign failures on the way, in order. -/
def run (draft : Draft α) : Except Refusal α × List Failure :=
  let (result, progress) := draft { slots := 0, foreign := [] }
  (result, progress.foreign.reverse)

end Draft

end Descent
