import Descent.Failure

/-!
# The furthest failure

A tracker remembers, of all failures reported to it, the furthest one; of several at the furthest
offset, the last.
-/

namespace Descent

/-- As long as nothing was reported, `furthest` is zero. -/
structure Tracker where
  furthest : Nat
  expected : Option String
deriving DecidableEq, Repr

namespace Tracker

def empty : Tracker where
  furthest := 0
  expected := none

/-- Only failures before the furthest one are ignored; a tie replaces it. -/
def accepts (tracker : Tracker) (failure : Failure) : Bool :=
  tracker.expected.isNone || tracker.furthest ≤ failure.offset

def report (tracker : Tracker) (failure : Failure) : Tracker :=
  if tracker.accepts failure then
    { furthest := failure.offset, expected := some failure.expected }
  else tracker

def reportAll (tracker : Tracker) (failures : List Failure) : Tracker :=
  failures.foldl report tracker

def failure? (tracker : Tracker) : Option Failure :=
  tracker.expected.map fun expected => { offset := tracker.furthest, expected }

theorem reportAll_nil (tracker : Tracker) : tracker.reportAll [] = tracker := rfl

theorem reportAll_cons (tracker : Tracker) (failure : Failure) (failures : List Failure) :
    tracker.reportAll (failure :: failures) = (tracker.report failure).reportAll failures := rfl

theorem reportAll_append (tracker : Tracker) (xs ys : List Failure) :
    tracker.reportAll (xs ++ ys) = (tracker.reportAll xs).reportAll ys :=
  List.foldl_append

end Tracker

end Descent
