import Descent.Parser.Run

/-!
# Contexts

An input together with its tracker, for driving parsers by hand: several of them can run on one
input, at any offset, and all report to the same tracker.
-/

namespace Descent

structure Context where
  input : Text
  tracker : Tracker
deriving DecidableEq, Repr

namespace Context

variable {S : Signature} {α : Type}

def ofInput (input : Text) : Context where
  input := input
  tracker := .empty

def remaining? (context : Context) (offset : Nat) : Option Text :=
  Text.after? context.input offset

def isAtEnd (context : Context) (offset : Nat) : Bool :=
  Text.isAtEnd context.input offset

def fail {Rule : Type} (context : Context) (failure : Failure) : List (Event Rule) × Context :=
  let (events, tracker) := context.tracker.observe failure
  (events, { context with tracker })

/-- The error for the furthest failure so far, or for nothing at all at the beginning. -/
def error? (context : Context) : Option ParseError :=
  ParseError.at? context.input
    { offset := context.tracker.furthest, expected := context.tracker.expected.getD "nothing" }

/-- Runs a parser at an offset, with the cells that its earlier runs left. -/
def run (context : Context) (grammar : Grammar S) (p : Parser S α) (offset : Nat)
    (cells : Cells S) : Option (Run S α) :=
  Parser.runWithin grammar context.input (Parser.fuelFor context.input) p offset
    { tracker := context.tracker, cells }

end Context

end Descent
