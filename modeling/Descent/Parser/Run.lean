import Descent.Event
import Descent.Parser.Cells

/-!
# Running a parser

Runs a parser once at an offset. A run has an outcome, a list of events and a memory that later
runs go on with. Repetitions without an upper bound and recursion through rules may go on for ever,
so a run is given fuel; a run that needs more is unfinished, which is neither a failure nor a
fault.
-/

namespace Descent

/-- What one run leaves to the next: the tracker and the cells of lazy nodes. -/
structure Memory (S : Signature) : Type 1 where
  tracker : Tracker
  cells : Cells S

def Memory.fresh {S : Signature} (cells : Cells S) : Memory S where
  tracker := .empty
  cells := cells

structure Run (S : Signature) (α : Type) : Type 1 where
  outcome : Outcome α
  events : List (Event S.Rule)
  memory : Memory S

/-- What happens at an offset with a memory; `none` stands for an unfinished run. -/
abbrev Action (S : Signature) (α : Type) : Type 1 :=
  Nat → Memory S → Option (Run S α)

namespace Run

variable {S : Signature} {α β : Type}

/-- A run that observed nothing and changed nothing. -/
def quiet (memory : Memory S) (outcome : Outcome α) : Run S α where
  outcome := outcome
  events := []
  memory := memory

def failing (memory : Memory S) (failure : Failure) : Run S α :=
  let (events, tracker) := memory.tracker.observe failure
  { outcome := .failed failure, events, memory := { memory with tracker } }

def map (f : α → β) (run : Run S α) : Run S β :=
  { outcome := run.outcome.map f, events := run.events, memory := run.memory }

/-- Puts the events of what happened before in front. -/
def after (events : List (Event S.Rule)) (run : Run S α) : Run S α :=
  { run with events := events ++ run.events }

/-- Goes on where a match ended; anything else ends the whole run. -/
def andThen (run : Run S α) (next : α → Action S β) : Option (Run S β) :=
  match run.outcome with
  | .matched value offset => (next value offset run.memory).map (after run.events)
  | .failed failure =>
    some { outcome := .failed failure, events := run.events, memory := run.memory }
  | .faulted fault =>
    some { outcome := .faulted fault, events := run.events, memory := run.memory }

/-- Goes on after a failure; a match or a fault ends the whole run. -/
def orElse (run : Run S α) (next : Memory S → Option (Run S α)) : Option (Run S α) :=
  match run.outcome with
  | .failed _ => (next run.memory).map (after run.events)
  | _ => some run

/-- Records how a run ended; a fault leaves no record. -/
def leaving (probe : String) (run : Run S α) : Run S α :=
  match run.outcome with
  | .matched _ next => { run with events := run.events ++ [.left probe next] }
  | .failed failure => { run with events := run.events ++ [.missed probe failure] }
  | .faulted _ => run

@[simp]
theorem outcome_after (events : List (Event S.Rule)) (run : Run S α) :
    (run.after events).outcome = run.outcome := rfl

@[simp]
theorem memory_after (events : List (Event S.Rule)) (run : Run S α) :
    (run.after events).memory = run.memory := rfl

@[simp]
theorem outcome_leaving (probe : String) (run : Run S α) :
    (run.leaving probe).outcome = run.outcome := by
  unfold leaving
  split <;> rfl

@[simp]
theorem memory_leaving (probe : String) (run : Run S α) :
    (run.leaving probe).memory = run.memory := by
  unfold leaving
  split <;> rfl

end Run

namespace Action

variable {S : Signature} {α β : Type}

def yield (value : α) : Action S α := fun offset memory =>
  some (.quiet memory (.matched value offset))

def unfinished : Action S α := fun _ _ => none

def failing (expected : String) : Action S α := fun offset memory =>
  some (.failing memory { offset, expected })

def faulting (cause : Fault) : Action S α := fun _ memory =>
  some (.quiet memory (.faulted cause))

def currentOffset : Action S Nat := fun offset memory =>
  some (.quiet memory (.matched offset offset))

def endOfInput (input : Text) : Action S Unit := fun offset memory =>
  if Text.isAtEnd input offset then yield () offset memory else failing "EOF" offset memory

def bind (action : Action S α) (next : α → Action S β) : Action S β := fun offset memory =>
  (action offset memory).bind (·.andThen next)

def map (f : α → β) (action : Action S α) : Action S β := fun offset memory =>
  (action offset memory).map (·.map f)

def orElse (first second : Action S α) : Action S α := fun offset memory =>
  (first offset memory).bind (·.orElse (second offset))

def probed (action : Action S α) (name : String) : Action S α := fun offset memory =>
  (action offset memory).map fun run => (run.leaving name).after [.entered name offset]

def required (action : Action S α) : Nat → Action S (List α)
  | 0 => yield []
  | count + 1 => action.bind fun value => (required action count).map (value :: ·)

/-- At most `count` matches, up to the first failure; after that many matches the `last` action
decides. -/
def optional (action : Action S α) (last : Action S (List α)) : Nat → Action S (List α)
  | 0 => last
  | count + 1 => fun offset memory => do
    let run ← action offset memory
    match run.outcome with
    | .matched value next =>
      return (← optional action last count next run.memory).map (value :: ·) |>.after run.events
    | .failed _ =>
      return { outcome := .matched [] offset, events := run.events, memory := run.memory }
    | .faulted fault =>
      return { outcome := .faulted fault, events := run.events, memory := run.memory }

/-- A repetition within bounds. Without an upper bound it may make `fuel` optional matches before
it counts as unfinished. -/
def times (action : Action S α) (bounds : Bounds) (fuel : Nat) : Action S (List α) :=
  (action.required bounds.least).bind fun values =>
    (match bounds.most with
    | some most => action.optional (yield []) (most - bounds.least)
    | none => action.optional unfinished fuel).map (values ++ ·)

end Action

namespace Lexeme

variable {S : Signature} {α : Type}

/-- Cuts the input at the offset and takes characters off the rest. -/
def run (l : Lexeme α) (input : Text) : Action S α := fun offset memory =>
  match Text.after? input offset with
  | none => some (.quiet memory (.faulted .badOffset))
  | some rest =>
    match l.read? rest with
    | some (value, count) =>
      some (.quiet memory (.matched value (offset + Text.size (rest.take count))))
    | none => some (.failing memory { offset, expected := l.expected })

end Lexeme

/-- Reports the failures of a custom parser and takes over its outcome. -/
def Action.custom {S : Signature} {α : Type} (input : Text)
    (act : Text → Tracker → Nat → List Failure × Outcome α) : Action S α := fun offset memory =>
  let (failures, outcome) := act input memory.tracker offset
  let (events, tracker) := memory.tracker.observeAll failures
  some { outcome, events, memory := { memory with tracker } }

/-- Runs the body that a lazy node keeps, or constructs it first. -/
def Action.lazy {S : Signature} (grammar : Grammar S)
    (call : (α : Type) → Parser S α → Action S α) (slot : Nat) (rule : S.Rule) :
    Action S (S.Result rule) := fun offset memory =>
  let run (body : Parser S (S.Result rule)) (inner : Cells S) (before : List (Event S.Rule)) := do
    let run ← call _ body offset { memory with cells := inner }
    let cells := memory.cells.put slot rule body run.memory.cells
    return { run.after before with memory := { run.memory with cells } }
  match memory.cells.find? slot rule with
  | some (body, inner) => run body inner []
  | none =>
    run (grammar.body rule) .empty
      (.constructed rule :: (grammar.foreign rule).map .furthest)

namespace Parser

variable {S : Signature}

/-- The action of a parser, given that of the bodies of rules and the number of matches that
unbounded repetitions may make. -/
def action (grammar : Grammar S) (input : Text) (call : (α : Type) → Parser S α → Action S α)
    (fuel : Nat) : {α : Type} → Parser S α → Action S α
  | _, lexeme l => l.run input
  | _, endOfInput => Action.endOfInput input
  | _, always value => Action.yield value
  | _, never expected => Action.failing expected
  | _, currentOffset => Action.currentOffset
  | _, map f p => (action grammar input call fuel p).map f
  | _, bind p next =>
    (action grammar input call fuel p).bind fun value => action grammar input call fuel (next value)
  | _, zipWith f p q =>
    (action grammar input call fuel p).bind fun a => (action grammar input call fuel q).map (f a)
  | _, orElse p q => (action grammar input call fuel p).orElse (action grammar input call fuel q)
  | _, times p bounds => (action grammar input call fuel p).times bounds fuel
  | _, lazy slot rule => Action.lazy grammar call slot rule
  | _, probe name p => (action grammar input call fuel p).probed name
  | _, custom act => Action.custom input act
  | _, fault cause => Action.faulting cause

/-- Runs a parser with fuel for so many nested rules. -/
def runWithin (grammar : Grammar S) (input : Text) :
    Nat → {α : Type} → Parser S α → Action S α
  | 0, _, _ => Action.unfinished
  | fuel + 1, _, p => p.action grammar input (fun _ q => runWithin grammar input fuel q) fuel

/-- Fuel in plenty for an input: what is still unfinished with it would not end in practice. -/
def fuelFor (input : Text) : Nat :=
  1000000000000 * (input.length + 1)

end Parser

end Descent
