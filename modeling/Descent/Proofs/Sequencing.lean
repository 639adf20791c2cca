import Descent.Parser.Run

/-!
# Laws of sequencing

What actions in a row do is read off the finished runs, one step at a time. To go on with an action
after a match is associative, and an action that only yields its value can be left out; so what is
done in a row can be regrouped, also where lists are put together, as repetitions do.
-/

namespace Descent

variable {S : Signature} {α β γ : Type}

namespace Run

theorem andThen_eq_some_iff {run : Run S α} {next : α → Action S β} {result : Run S β} :
    run.andThen next = some result ↔
      (∃ value offset rest, run.outcome = .matched value offset ∧
        next value offset run.memory = some rest ∧ rest.after run.events = result) ∨
      (∃ failure, run.outcome = .failed failure ∧
        { outcome := .failed failure, events := run.events, memory := run.memory } = result) ∨
      ∃ fault, run.outcome = .faulted fault ∧
        { outcome := .faulted fault, events := run.events, memory := run.memory } = result := by
  unfold andThen
  cases run.outcome <;> simp [and_assoc]

theorem orElse_eq_some_iff {run : Run S α} {next : Memory S → Option (Run S α)}
    {result : Run S α} :
    run.orElse next = some result ↔
      (∃ failure rest, run.outcome = .failed failure ∧ next run.memory = some rest ∧
        rest.after run.events = result) ∨
      (∀ failure, run.outcome ≠ .failed failure) ∧ run = result := by
  unfold orElse
  cases run.outcome <;> simp

theorem after_after (xs ys : List (Event S.Rule)) (run : Run S α) :
    (run.after ys).after xs = run.after (xs ++ ys) := by
  simp [after]

theorem andThen_after (events : List (Event S.Rule)) (run : Run S α) (next : α → Action S β) :
    (run.after events).andThen next = (run.andThen next).map (.after events) := by
  unfold andThen
  rw [outcome_after, memory_after]
  cases run.outcome with
  | matched value offset =>
    dsimp only
    rw [Option.map_map]
    congr 1
    funext rest
    exact (after_after events run.events rest).symm
  | failed failure => rfl
  | faulted fault => rfl

theorem bind_after (events : List (Event S.Rule)) (result : Option (Run S α))
    (next : α → Action S β) :
    (result.map (after events)).bind (fun run => run.andThen next) =
      (result.bind fun run => run.andThen next).map (after events) := by
  rw [Option.bind_map, Option.map_bind]
  congr 1
  funext run
  exact andThen_after events run next

end Run

namespace Action

theorem yield_bind (value : α) (next : α → Action S β) : (yield value).bind next = next value := by
  funext offset memory
  show (next value offset memory).map (.after []) = next value offset memory
  exact congrFun Option.map_id (next value offset memory)

theorem bind_assoc (action : Action S α) (f : α → Action S β) (g : β → Action S γ) :
    (action.bind f).bind g = action.bind fun value => (f value).bind g := by
  funext offset memory
  unfold Action.bind
  rw [Option.bind_assoc]
  congr 1
  funext run
  unfold Run.andThen
  cases run.outcome with
  | matched value middle =>
    dsimp only
    rw [Option.bind_map, Option.map_bind]
    congr 1
    funext rest
    exact Run.andThen_after run.events rest g
  | failed failure => rfl
  | faulted fault => rfl

theorem map_eq_bind (f : α → β) (action : Action S α) :
    action.map f = action.bind fun value => yield (f value) := by
  funext offset memory
  unfold Action.map Action.bind
  rw [Option.map_eq_bind]
  congr 1
  funext run
  obtain ⟨outcome, events, memory⟩ := run
  cases outcome <;> simp [Run.map, Run.andThen, Outcome.map, yield, Run.quiet, Run.after]

theorem map_id (action : Action S α) : action.map id = action := by
  funext offset memory
  unfold Action.map
  have hid : (fun run : Run S α => run.map id) = id := by
    funext run
    simp [Run.map]
  rw [hid]
  exact congrFun Option.map_id (action offset memory)

theorem map_bind (f : β → γ) (action : Action S α) (next : α → Action S β) :
    (action.bind next).map f = action.bind fun value => (next value).map f := by
  simp only [map_eq_bind, bind_assoc]

theorem bind_map (f : α → β) (action : Action S α) (next : β → Action S γ) :
    (action.map f).bind next = action.bind fun value => next (f value) := by
  simp only [map_eq_bind, bind_assoc, yield_bind]

theorem map_map (f : β → γ) (g : α → β) (action : Action S α) :
    (action.map g).map f = action.map fun value => f (g value) := by
  simp only [map_eq_bind, bind_assoc, yield_bind]

section Bind

variable {action : Action S α} {next : α → Action S β} {offset stop : Nat} {memory : Memory S}
  {run : Run S α} {value : α}

theorem bind_of_none (hrun : action offset memory = none) :
    action.bind next offset memory = none := by
  unfold Action.bind
  rw [hrun, Option.bind_none]

theorem bind_of_matched (hrun : action offset memory = some run)
    (hmatched : run.outcome = .matched value stop) :
    action.bind next offset memory = (next value stop run.memory).map (.after run.events) := by
  unfold Action.bind
  rw [hrun, Option.bind_some, Run.andThen, hmatched]

theorem bind_of_failed {failure : Failure} (hrun : action offset memory = some run)
    (hfailed : run.outcome = .failed failure) :
    action.bind next offset memory =
      some { outcome := .failed failure, events := run.events, memory := run.memory } := by
  unfold Action.bind
  rw [hrun, Option.bind_some, Run.andThen, hfailed]

theorem bind_of_faulted {fault : Fault} (hrun : action offset memory = some run)
    (hfaulted : run.outcome = .faulted fault) :
    action.bind next offset memory =
      some { outcome := .faulted fault, events := run.events, memory := run.memory } := by
  unfold Action.bind
  rw [hrun, Option.bind_some, Run.andThen, hfaulted]

end Bind

section Optional

variable {action : Action S α} {last : Action S (List α)} {count offset stop : Nat}
  {memory : Memory S} {run : Run S α} {value : α}

theorem optional_succ_eq_some_iff {result : Run S (List α)} :
    action.optional last (count + 1) offset memory = some result ↔
      ∃ run, action offset memory = some run ∧
        ((∃ value middle rest, run.outcome = .matched value middle ∧
          action.optional last count middle run.memory = some rest ∧
            (rest.map (value :: ·)).after run.events = result) ∨
        (∃ failure, run.outcome = .failed failure ∧
          { outcome := .matched [] offset, events := run.events, memory := run.memory } = result) ∨
        ∃ fault, run.outcome = .faulted fault ∧
          { outcome := .faulted fault, events := run.events, memory := run.memory } = result) := by
  refine Option.bind_eq_some_iff.trans (exists_congr fun run => and_congr_right fun _ => ?_)
  cases run.outcome <;> simp [Option.bind_eq_some_iff, and_assoc]

theorem optional_of_none (hrun : action offset memory = none) (count : Nat) :
    action.optional last (count + 1) offset memory = none := by
  simp only [Action.optional, hrun, Option.bind_eq_bind, Option.bind_none]

theorem optional_of_matched (hrun : action offset memory = some run)
    (hmatched : run.outcome = .matched value stop) (count : Nat) :
    action.optional last (count + 1) offset memory =
      ((action.optional last count).map (value :: ·) stop run.memory).map (.after run.events) := by
  unfold Action.map
  simp only [Action.optional, hrun, Option.bind_eq_bind, Option.bind_some, hmatched, Option.map_map]
  exact Option.map_eq_bind.symm

theorem optional_of_failed {failure : Failure} (hrun : action offset memory = some run)
    (hfailed : run.outcome = .failed failure) (count : Nat) :
    action.optional last (count + 1) offset memory =
      some { outcome := .matched [] offset, events := run.events, memory := run.memory } := by
  simp only [Action.optional, hrun, Option.bind_eq_bind, Option.bind_some, hfailed]
  rfl

theorem optional_of_faulted {fault : Fault} (hrun : action offset memory = some run)
    (hfaulted : run.outcome = .faulted fault) (count : Nat) :
    action.optional last (count + 1) offset memory =
      some { outcome := .faulted fault, events := run.events, memory := run.memory } := by
  simp only [Action.optional, hrun, Option.bind_eq_bind, Option.bind_some, hfaulted]
  rfl

end Optional

/-- One action after the other, with the lists of values put together. -/
def append (first second : Action S (List α)) : Action S (List α) :=
  first.bind fun values => second.map (values ++ ·)

theorem yield_append (action : Action S (List α)) : (yield []).append action = action := by
  unfold append
  rw [yield_bind]
  exact map_id action

theorem bind_append (action : Action S α) (next : α → Action S (List β))
    (last : Action S (List β)) :
    (action.bind next).append last = action.bind fun value => (next value).append last :=
  bind_assoc action next _

theorem map_cons_append (value : α) (first second : Action S (List α)) :
    (first.map (value :: ·)).append second = (first.append second).map (value :: ·) := by
  unfold append
  rw [bind_map, map_bind]
  congr 1
  funext values
  exact (map_map (value :: ·) (values ++ ·) second).symm

theorem append_assoc (first second third : Action S (List α)) :
    (first.append second).append third = first.append (second.append third) := by
  unfold append
  rw [bind_assoc]
  congr 1
  funext values
  rw [bind_map, map_bind]
  congr 1
  funext values'
  rw [map_map]
  congr 1
  funext more
  exact List.append_assoc values values' more

/-- The rounds that may still be made after those that have to match. -/
def surplus (action : Action S α) (bounds : Bounds) (fuel : Nat) : Action S (List α) :=
  match bounds.most with
  | some most => action.optional (yield []) (most - bounds.least)
  | none => action.optional unfinished fuel

theorem times_eq (action : Action S α) (bounds : Bounds) (fuel : Nat) :
    action.times bounds fuel =
      (action.required bounds.least).append (action.surplus bounds fuel) := rfl

theorem times_atMost (action : Action S α) (count fuel : Nat) :
    action.times (.atMost count) fuel = action.optional (yield []) count :=
  yield_append _

theorem times_atLeast_zero (action : Action S α) (fuel : Nat) :
    action.times (.atLeast 0) fuel = action.optional unfinished fuel :=
  yield_append _

end Action

namespace Parser

variable {grammar : Grammar S} {input : Text}

theorem runWithin_bind (p : Parser S α) (f : α → Parser S β) (fuel : Nat) :
    (p.bind f).runWithin grammar input fuel =
      (p.runWithin grammar input fuel).bind fun value =>
        (f value).runWithin grammar input fuel := by
  cases fuel <;> rfl

theorem runWithin_map (f : α → β) (p : Parser S α) (fuel : Nat) :
    (p.map f).runWithin grammar input fuel = (p.runWithin grammar input fuel).map f := by
  cases fuel <;> rfl

end Parser

end Descent
