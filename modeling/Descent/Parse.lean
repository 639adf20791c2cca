import Descent.Parser.Combinators
import Descent.Parser.Run

/-!
# Parsing

The entry points. A parse runs a parser at the beginning of the input with a fresh tracker; if that
fails, the error describes the furthest failure that was reported in the whole run.
-/

namespace Descent

inductive Verdict (α : Type) where
  | accepted (value : α)
  | rejected (error : ParseError)
  | faulted (fault : Fault)
deriving DecidableEq, Repr

namespace Verdict

variable {α β : Type}

def map (f : α → β) : Verdict α → Verdict β
  | accepted value => accepted (f value)
  | rejected error => rejected error
  | faulted fault => faulted fault

end Verdict

/-- The verdict on an input, what happened on the way, and the cells for the next parse. -/
structure Parse (S : Signature) (α : Type) : Type 1 where
  verdict : Verdict α
  events : List (Event S.Rule)
  cells : Cells S

namespace Parse

variable {S : Signature} {α : Type}

/-- Ends a failed parse. The failure that was returned is described only if the tracker never got
a report. -/
def conclude (input : Text) (failure : Failure) (events : List (Event S.Rule))
    (memory : Memory S) : Parse S α :=
  match ParseError.at? input (memory.tracker.failure?.getD failure) with
  | some error =>
    { verdict := .rejected error, events := events ++ [.concluded error], cells := memory.cells }
  | none => { verdict := .faulted .badOffset, events, cells := memory.cells }

/-- The verdict on a run that need not have reached the end of the input. -/
def ofRunPartial (input : Text) (run : Run S α) : Parse S (α × Nat) :=
  match run.outcome with
  | .matched value next =>
    { verdict := .accepted (value, next), events := run.events, cells := run.memory.cells }
  | .failed failure => conclude input failure run.events run.memory
  | .faulted fault =>
    { verdict := .faulted fault, events := run.events, cells := run.memory.cells }

/-- The verdict on a run that has to reach the end of the input. What is left over counts as a
failure of its own. -/
def ofRun (input : Text) (run : Run S α) : Parse S α :=
  match run.outcome with
  | .matched value next =>
    if Text.isAtEnd input next then
      { verdict := .accepted value, events := run.events, cells := run.memory.cells }
    else
      let leftover : Failure := { offset := next, expected := "EOF" }
      let (events, tracker) := run.memory.tracker.observe leftover
      conclude input leftover (run.events ++ events) { run.memory with tracker }
  | .failed failure => conclude input failure run.events run.memory
  | .faulted fault =>
    { verdict := .faulted fault, events := run.events, cells := run.memory.cells }

end Parse

namespace Parser

variable {S : Signature} {α : Type}

def parseWithin (fuel : Nat) (grammar : Grammar S) (p : Parser S α) (input : Text)
    (cells : Cells S) : Option (Parse S α) :=
  (runWithin grammar input fuel p 0 (.fresh cells)).map (.ofRun input)

def parsePartialWithin (fuel : Nat) (grammar : Grammar S) (p : Parser S α) (input : Text)
    (cells : Cells S) : Option (Parse S (α × Nat)) :=
  (runWithin grammar input fuel p 0 (.fresh cells)).map (.ofRunPartial input)

/-- Parses the whole of an input. `cells` are those that earlier parses left. -/
def parse (grammar : Grammar S) (p : Parser S α) (input : Text) (cells : Cells S) :
    Option (Parse S α) :=
  p.parseWithin (fuelFor input) grammar input cells

/-- Parses the beginning of an input; the value comes with the offset where that ends. -/
def parsePartial (grammar : Grammar S) (p : Parser S α) (input : Text) (cells : Cells S) :
    Option (Parse S (α × Nat)) :=
  p.parsePartialWithin (fuelFor input) grammar input cells

end Parser

end Descent
