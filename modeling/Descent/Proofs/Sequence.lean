import Descent.Proofs.Splitting

/-!
# Parsers in a row

That one parser goes on where another has ended can be written in several ways: the first one's
value chooses the second, the two values are put together, or a whole list of parsers is gone
through in a loop. No run tells them apart, so a row of parsers can be regrouped and cut anywhere.
-/

namespace Descent

variable {S : Signature} {α β γ : Type}

namespace Action

/-- Runs actions one after another, each where the one before it has ended, with the values and
events so far. What does not match ends the loop at once. -/
def gather (values : List α) (events : List (Event S.Rule)) :
    List (Action S α) → Action S (List α)
  | [], offset, memory => some { outcome := .matched values offset, events, memory }
  | action :: actions, offset, memory => do
    let run ← action offset memory
    let events := events ++ run.events
    match run.outcome with
    | .matched value next => gather (values ++ [value]) events actions next run.memory
    | .failed failure => return { outcome := .failed failure, events, memory := run.memory }
    | .faulted fault => return { outcome := .faulted fault, events, memory := run.memory }

end Action

namespace Parser

/-- No run tells the two apart: from any offset and memory they are both unfinished, or end in the
same way after the same events and leave the same memory. -/
def RunsAs (p q : Parser S α) : Prop :=
  ∀ (grammar : Grammar S) (input : Text) (fuel : Nat),
    p.runWithin grammar input fuel = q.runWithin grammar input fuel

section Laws

theorem runsAs_bind_assoc (p : Parser S α) (f : α → Parser S β) (g : β → Parser S γ) :
    ((p.bind f).bind g).RunsAs (p.bind fun value => (f value).bind g) := by
  intro grammar input fuel
  simp only [runWithin_bind, Action.bind_assoc]

theorem runsAs_always_bind (value : α) (f : α → Parser S β) :
    ((always value).bind f).RunsAs (f value) := by
  intro grammar input fuel
  rw [runWithin_bind]
  cases fuel with
  | zero => rfl
  | succ fuel => exact Action.yield_bind value _

theorem runsAs_map (f : α → β) (p : Parser S α) :
    (p.map f).RunsAs (p.bind fun value => always (f value)) := by
  intro grammar input fuel
  rw [runWithin_map, runWithin_bind]
  cases fuel with
  | zero => rfl
  | succ fuel => exact Action.map_eq_bind f _

theorem runsAs_bind_always (p : Parser S α) : (p.bind always).RunsAs p := by
  intro grammar input fuel
  have hmap : (p.map id).runWithin grammar input fuel = p.runWithin grammar input fuel := by
    rw [runWithin_map]
    exact Action.map_id _
  exact (runsAs_map id p grammar input fuel).symm.trans hmap

theorem runsAs_zipWith (f : α → β → γ) (p : Parser S α) (q : Parser S β) :
    (zipWith f p q).RunsAs (p.bind fun value => q.map (f value)) := by
  intro grammar input fuel
  cases fuel <;> rfl

end Laws

section Sequence

variable {grammar : Grammar S} {input : Text}

theorem runWithin_sequence_cons (p : Parser S α) (ps : List (Parser S α)) (fuel : Nat) :
    (sequence (p :: ps)).runWithin grammar input fuel =
      (p.runWithin grammar input fuel).bind fun value =>
        ((sequence ps).runWithin grammar input fuel).map (value :: ·) := by
  cases fuel <;> rfl

theorem runWithin_sequence_append (ps qs : List (Parser S α)) (fuel : Nat) :
    (sequence (ps ++ qs)).runWithin grammar input fuel =
      ((sequence ps).runWithin grammar input fuel).append
        ((sequence qs).runWithin grammar input fuel) := by
  induction ps with
  | nil =>
    cases fuel with
    | zero => rfl
    | succ fuel => exact (Action.yield_append _).symm
  | cons p ps ih =>
    rw [List.cons_append, runWithin_sequence_cons, runWithin_sequence_cons, ih, Action.bind_append]
    congr 1
    funext value
    exact (Action.map_cons_append value _ _).symm

theorem runsAs_sequence_append (ps qs : List (Parser S α)) :
    (sequence (ps ++ qs)).RunsAs ((sequence ps).appended (sequence qs)) := by
  intro grammar input fuel
  rw [runWithin_sequence_append, runWithin_appended]

theorem runsAs_sequence_foldr (ps : List (Parser S α)) :
    (sequence ps).RunsAs
      (ps.foldr (fun p rest => p.bind fun value => rest.map (value :: ·)) (always [])) := by
  intro grammar input fuel
  induction ps with
  | nil => rfl
  | cons p ps ih =>
    rw [runWithin_sequence_cons, List.foldr_cons, runWithin_bind, ih]
    simp only [runWithin_map]

/-- What the loop has already gathered stays in front of what the parsers still to come make. -/
theorem gather_eq_map (ps : List (Parser S α)) (fuel : Nat) (values : List α)
    (events : List (Event S.Rule)) (offset : Nat) (memory : Memory S) :
    Action.gather values events (ps.map (·.runWithin grammar input (fuel + 1))) offset memory =
      ((sequence ps).runWithin grammar input (fuel + 1) offset memory).map fun run =>
        (run.map (values ++ ·)).after events := by
  induction ps generalizing values events offset memory with
  | nil => simp [Action.gather, sequence, runWithin, action, Action.yield, Run.quiet, Run.map,
      Run.after, Outcome.map]
  | cons p ps ih =>
    rw [List.map_cons, runWithin_sequence_cons]
    unfold Action.gather
    cases hrun : p.runWithin grammar input (fuel + 1) offset memory with
    | none =>
      rw [Action.bind_of_none hrun]
      rfl
    | some run =>
      rw [Option.bind_eq_bind, Option.bind_some]
      cases hout : run.outcome with
      | matched value next =>
        dsimp only
        rw [ih, Action.bind_of_matched hrun hout]
        unfold Action.map
        rw [Option.map_map, Option.map_map]
        congr 1
        funext rest
        simp [Run.map, Run.after, Outcome.map_map, Function.comp_def]
      | failed failure =>
        rw [Action.bind_of_failed hrun hout]
        rfl
      | faulted fault =>
        rw [Action.bind_of_faulted hrun hout]
        rfl

theorem runWithin_sequence (ps : List (Parser S α)) (fuel : Nat) :
    (sequence ps).runWithin grammar input (fuel + 1) =
      Action.gather [] [] (ps.map (·.runWithin grammar input (fuel + 1))) := by
  funext offset memory
  rw [gather_eq_map]
  have hsame : (fun run : Run S (List α) => (run.map ([] ++ ·)).after []) = id := by
    funext run
    show run.map id = run
    simp [Run.map]
  rw [hsame]
  exact (congrFun Option.map_id _).symm

end Sequence

/-- To go on after a match is associative, and to go on with what only yields the value is to stay.
Maps, pairs and dropped values are ways of going on with the value at hand. A list of parsers can be
cut anywhere; it is one going on inside another, and it runs like a loop through the list. -/
theorem sequencing_laws :
    (∀ (p : Parser S α) (f : α → Parser S β) (g : β → Parser S γ),
      ((p.bind f).bind g).RunsAs (p.bind fun value => (f value).bind g)) ∧
    (∀ (value : α) (f : α → Parser S β), ((always value).bind f).RunsAs (f value)) ∧
    (∀ p : Parser S α, (p.bind always).RunsAs p) ∧
    (∀ (f : α → β) (p : Parser S α), (p.map f).RunsAs (p.bind fun value => always (f value))) ∧
    (∀ (p : Parser S α) (q : Parser S β),
      (p.skip q).RunsAs (p.bind fun value => q.map fun _ => value)) ∧
    (∀ (p : Parser S α) (q : Parser S β),
      (p.both q).RunsAs (p.bind fun first => q.map fun second => (first, second))) ∧
    (∀ (p : Parser S α) (q : Parser S β), (p.andThen q).RunsAs (p.bind fun _ => q)) ∧
    (∀ ps qs : List (Parser S α), (sequence (ps ++ qs)).RunsAs
      (((sequence ps).both (sequence qs)).map fun (values, more) => values ++ more)) ∧
    (∀ ps : List (Parser S α), (sequence ps).RunsAs
      (ps.foldr (fun p rest => p.bind fun value => rest.map (value :: ·)) (always []))) ∧
    ∀ (ps : List (Parser S α)) (grammar : Grammar S) (input : Text) (fuel : Nat),
      (sequence ps).runWithin grammar input (fuel + 1) =
        Action.gather [] [] (ps.map (·.runWithin grammar input (fuel + 1))) := by
  refine ⟨runsAs_bind_assoc, runsAs_always_bind, runsAs_bind_always, runsAs_map, ?_, ?_, ?_,
    runsAs_sequence_append, runsAs_sequence_foldr, ?_⟩
  · exact fun p q => runsAs_zipWith (fun value _ => value) p q
  · exact fun p q => runsAs_zipWith Prod.mk p q
  · exact fun p q grammar input fuel => rfl
  · exact fun ps grammar input fuel => runWithin_sequence ps fuel

end Parser

end Descent
