import Descent.Proofs.Session

/-!
# Parsing the whole input

A parse of the whole input checks for what is left over by itself. A parse of its beginning with a
parser that goes on to the end of the input has the check in the parser. The two are the same, but
for the offset that the second one gives with the value: the verdict, the events in their order and
the cells left behind, whatever the parser is made of.
-/

namespace Descent

variable {S : Signature} {α β : Type} {grammar : Grammar S} {input : Text}

/-- Goes on to the end of the input after a match. -/
def Run.toEnd (input : Text) (run : Run S α) : Option (Run S α) :=
  run.andThen fun value => (Action.endOfInput input).map fun _ => value

namespace Run

variable {run : Run S α}

theorem toEnd_of_failed {failure : Failure} (h : run.outcome = .failed failure) :
    run.toEnd input = some run := by
  unfold toEnd andThen
  rw [h]
  simp [← h]

theorem toEnd_of_faulted {fault : Fault} (h : run.outcome = .faulted fault) :
    run.toEnd input = some run := by
  unfold toEnd andThen
  rw [h]
  simp [← h]

variable {value : α} {next : Nat}

theorem toEnd_of_isAtEnd (h : run.outcome = .matched value next)
    (hend : Text.isAtEnd input next = true) : run.toEnd input = some run := by
  unfold toEnd andThen Action.map Action.endOfInput
  rw [h]
  simp [hend, Action.yield, quiet, map, after, Outcome.map, ← h]

theorem toEnd_of_not_isAtEnd (h : run.outcome = .matched value next)
    (hend : Text.isAtEnd input next = false) :
    run.toEnd input =
      some ((failing run.memory { offset := next, expected := "EOF" }).after run.events) := by
  unfold toEnd andThen Action.map Action.endOfInput
  rw [h]
  simp [hend, Action.failing, map, failing, Outcome.map]

theorem exists_toEnd (input : Text) (run : Run S α) : ∃ run', run.toEnd input = some run' := by
  cases hout : run.outcome with
  | matched value next =>
    cases hend : Text.isAtEnd input next with
    | true => exact ⟨run, toEnd_of_isAtEnd hout hend⟩
    | false => exact ⟨_, toEnd_of_not_isAtEnd hout hend⟩
  | failed failure => exact ⟨run, toEnd_of_failed hout⟩
  | faulted fault => exact ⟨run, toEnd_of_faulted hout⟩

end Run

namespace Parse

theorem map_conclude (f : α → β) (failure : Failure) (events : List (Event S.Rule))
    (memory : Memory S) :
    (conclude input failure events memory : Parse S α).map f =
      conclude input failure events memory := by
  unfold conclude
  cases ParseError.at? input (memory.tracker.failure?.getD failure) <;> rfl

/-- The verdict on the whole input is the verdict on a run that has gone on to its end. -/
theorem ofRun_eq_of_toEnd {run run' : Run S α} (h : run.toEnd input = some run') :
    ofRun input run = (ofRunPartial input run').map Prod.fst := by
  cases hout : run.outcome with
  | matched value next =>
    cases hend : Text.isAtEnd input next with
    | true =>
      rw [Run.toEnd_of_isAtEnd hout hend] at h
      cases h
      unfold ofRun ofRunPartial
      simp only [hout, hend, if_true]
      rfl
    | false =>
      rw [Run.toEnd_of_not_isAtEnd hout hend] at h
      cases h
      unfold ofRun ofRunPartial
      simp only [hout, hend, Bool.false_eq_true, if_false, Run.failing, Run.after, map_conclude]
  | failed failure =>
    rw [Run.toEnd_of_failed hout] at h
    cases h
    unfold ofRun ofRunPartial
    simp only [hout, map_conclude]
  | faulted fault =>
    rw [Run.toEnd_of_faulted hout] at h
    cases h
    unfold ofRun ofRunPartial
    simp only [hout]
    rfl

end Parse

namespace Parser

theorem runWithin_skip_endOfInput (p : Parser S α) (fuel offset : Nat) (memory : Memory S) :
    (p.skip .endOfInput).runWithin grammar input fuel offset memory =
      (p.runWithin grammar input fuel offset memory).bind (Run.toEnd input) := by
  cases fuel <;> rfl

/-- Both entry points come to the same, with any fuel: neither is finished, or both have the same
verdict, the same events in the same order and the same cells. -/
theorem parseWithin_eq_skip_endOfInput (grammar : Grammar S) (p : Parser S α) (input : Text)
    (cells : Cells S) (fuel : Nat) :
    p.parseWithin fuel grammar input cells =
      ((p.skip .endOfInput).parsePartialWithin fuel grammar input cells).map
        (Parse.map Prod.fst) := by
  unfold parseWithin parsePartialWithin
  rw [runWithin_skip_endOfInput]
  cases p.runWithin grammar input fuel 0 (.fresh cells) with
  | none => rfl
  | some run =>
    obtain ⟨run', hrun'⟩ := run.exists_toEnd input
    rw [Option.bind_some, hrun', Option.map_some, Option.map_some, Option.map_some,
      Parse.ofRun_eq_of_toEnd hrun']

end Parser

end Descent
