import Descent.Failure
import Descent.ParseError
import Descent.Tracker

/-!
# Events

What can be observed of a run besides its outcome, in the order in which it happens. Most events
are written to a log, a line each.
-/

namespace Descent

inductive Event (Rule : Type) where
  /-- A failure was made and handed to the tracker of the run. -/
  | reported (failure : Failure)
  /-- A tracker took a failure for the furthest one. -/
  | furthest (failure : Failure)
  | constructed (rule : Rule)
  | entered (probe : String) (offset : Nat)
  | left (probe : String) (next : Nat)
  | missed (probe : String) (failure : Failure)
  | concluded (error : ParseError)
deriving DecidableEq, Repr

namespace Event

variable {Rule : Type}

def report? : Event Rule → Option Failure
  | reported failure => some failure
  | _ => none

/-- The line of an event in the log. Reports as such are not written down. -/
def logLine? [ToString Rule] : Event Rule → Option String
  | reported _ => none
  | furthest failure =>
    some s!"TRACE furthest failure is now {failure.expected} at {failure.offset}"
  | constructed rule => some s!"BUILD {rule}"
  | entered probe offset => some s!"ENTER {probe} {offset}"
  | left probe next => some s!"MATCH {probe} {next}"
  | missed probe failure => some s!"FAIL {probe} {failure.offset} {failure.expected}"
  | concluded error =>
    let place := s!"{error.position} (byte offset {error.offset})"
    some s!"DEBUG Parse failed at {place}: expected {error.expected}"

/-- The failures reported during a run, in order. -/
def reports (events : List (Event Rule)) : List Failure :=
  events.filterMap report?

def log [ToString Rule] (events : List (Event Rule)) : List String :=
  events.filterMap logLine?

@[simp]
theorem reports_append (xs ys : List (Event Rule)) :
    reports (xs ++ ys) = reports xs ++ reports ys :=
  List.filterMap_append

theorem log_append [ToString Rule] (xs ys : List (Event Rule)) :
    log (xs ++ ys) = log xs ++ log ys :=
  List.filterMap_append

end Event

/-- Hands a failure to a tracker: the events of that, and the tracker afterwards. -/
def Tracker.observe {Rule : Type} (tracker : Tracker) (failure : Failure) :
    List (Event Rule) × Tracker :=
  (.reported failure :: if tracker.accepts failure then [.furthest failure] else [],
    tracker.report failure)

def Tracker.observeAll {Rule : Type} (tracker : Tracker) :
    List Failure → List (Event Rule) × Tracker
  | [] => ([], tracker)
  | failure :: failures =>
    let (first, tracker) := tracker.observe failure
    let (rest, tracker) := tracker.observeAll failures
    (first ++ rest, tracker)

end Descent
