import Descent.Proofs.Inlining

/-!
# Sessions

One parser is asked for several parses in turn, and each leaves its cells to the next one. The
verdicts are those of parsers that have never been used, however the parses before have ended.
-/

namespace Descent

variable {S : Signature} {α : Type} {grammar : Grammar S}

inductive Request where
  | whole (input : Text)
  | beginning (input : Text)
deriving DecidableEq, Repr

def Parse.map {β : Type} (f : α → β) (parse : Parse S α) : Parse S β where
  verdict := parse.verdict.map f
  events := parse.events
  cells := parse.cells

namespace Request

def input : Request → Text
  | whole input => input
  | beginning input => input

/-- The parse that a run at the beginning of the input amounts to. The value comes with the offset
where it ends if only the beginning of the input was asked for. -/
def judge (request : Request) (run : Run S α) : Parse S (α × Option Nat) :=
  match request with
  | whole input => (Parse.ofRun input run).map fun value => (value, none)
  | beginning input =>
    (Parse.ofRunPartial input run).map fun (value, next) => (value, some next)

variable (request : Request)

theorem cells_judge (run : Run S α) : (request.judge run).cells = run.memory.cells := by
  cases request with
  | whole input => exact Parse.cells_ofRun run
  | beginning input => exact Parse.cells_ofRunPartial run

theorem verdict_judge {S' : Signature} {run : Run S α} {run' : Run S' α}
    (hout : run'.outcome = run.outcome) (htracker : run'.memory.tracker = run.memory.tracker) :
    (request.judge run').verdict = (request.judge run).verdict := by
  cases request with
  | whole input => exact congrArg (Verdict.map _) (Parse.verdict_ofRun hout htracker)
  | beginning input => exact congrArg (Verdict.map _) (Parse.verdict_ofRunPartial hout htracker)

end Request

namespace Parser

def answer (fuel : Text → Nat) (grammar : Grammar S) (p : Parser S α) (request : Request)
    (cells : Cells S) : Option (Parse S (α × Option Nat)) :=
  match request with
  | .whole input =>
    (p.parseWithin (fuel input) grammar input cells).map (Parse.map fun value => (value, none))
  | .beginning input =>
    (p.parsePartialWithin (fuel input) grammar input cells).map
      (Parse.map fun (value, next) => (value, some next))

/-- The answers to requests in turn. If one of them is unfinished, the session is too. -/
def answerAll (fuel : Text → Nat) (grammar : Grammar S) (p : Parser S α) :
    List Request → Cells S → Option (List (Parse S (α × Option Nat)))
  | [], _ => some []
  | request :: requests, cells => do
    let parse ← p.answer fuel grammar request cells
    let parses ← p.answerAll fuel grammar requests parse.cells
    return parse :: parses

variable {fuel : Text → Nat} {p : Parser S α} {cells cells' : Cells S}

theorem answer_eq (request : Request) :
    p.answer fuel grammar request cells =
      (p.runWithin grammar request.input (fuel request.input) 0 (.fresh cells)).map
        request.judge := by
  cases request with
  | whole input => exact Option.map_map ..
  | beginning input => exact Option.map_map ..

theorem answer_cases (fuel : Text → Nat) (p : Parser S α) (hcells : cells.Faithful grammar)
    (hcells' : cells'.Faithful grammar) (request : Request) :
    p.answer fuel grammar request cells = none ∧ p.answer fuel grammar request cells' = none ∨
      ∃ parse parse', p.answer fuel grammar request cells = some parse ∧
        p.answer fuel grammar request cells' = some parse' ∧ parse.verdict = parse'.verdict ∧
        parse.cells.Faithful grammar := by
  rw [answer_eq, answer_eq]
  rcases runWithin_cases p request.input (fuel request.input) 0 .empty hcells hcells' with
    ⟨hnone, hnone'⟩ | ⟨run, run', hrun, hrun', hruns⟩
  · refine .inl ⟨?_, ?_⟩
    · exact Option.map_eq_none_iff.mpr hnone
    · exact Option.map_eq_none_iff.mpr hnone'
  · refine .inr ⟨request.judge run, request.judge run', ?_, ?_, ?_, ?_⟩
    · exact Option.map_eq_some_iff.mpr ⟨run, hrun, rfl⟩
    · exact Option.map_eq_some_iff.mpr ⟨run', hrun', rfl⟩
    · exact request.verdict_judge (hruns.outcomes.eq rfl) hruns.memories.trackers
    · rw [request.cells_judge]
      exact hruns.memories.cells.1

theorem answerAll_verdicts (hcells : cells.Faithful grammar) (requests : List Request) :
    (p.answerAll fuel grammar requests cells).map (List.map Parse.verdict) =
      requests.mapM fun request => (p.answer fuel grammar request .empty).map Parse.verdict := by
  induction requests generalizing cells with
  | nil => rfl
  | cons request requests ih =>
    rw [answerAll, List.mapM_cons]
    rcases answer_cases fuel p hcells Cells.faithful_empty request with
      ⟨hnone, hnone'⟩ | ⟨parse, parse', hparse, hparse', hverdict, hleft⟩
    · rw [hnone, hnone']
      rfl
    · rw [hparse, hparse', Option.map_some, ← hverdict, ← ih hleft]
      simp only [Option.bind_eq_bind, Option.bind_some]
      cases p.answerAll fuel grammar requests parse.cells with
      | none => rfl
      | some parses => rfl

end Parser

end Descent
