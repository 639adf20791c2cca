import Descent.Proofs.Attempt
import Descent.Proofs.Completeness
import Descent.Proofs.OffsetSafety
import Descent.Proofs.Splitting

/-!
# Laws of choice

To try one parser and then another is associative. To try a plain parser twice is to try it once,
and to try one that never matches first changes nothing either; the tracker cannot be reset, but it
keeps nothing of a round that is repeated or of a report that lies nearer. A choice from a list
tries its alternatives in order, all from the same place, up to the first that does not fail.
-/

namespace Descent

variable {S : Signature} {α : Type}

namespace Run

theorem orElse_after (events : List (Event S.Rule)) (run : Run S α)
    (next : Memory S → Option (Run S α)) :
    (run.after events).orElse next = (run.orElse next).map (.after events) := by
  unfold orElse
  rw [outcome_after, memory_after]
  cases run.outcome with
  | matched value offset => rfl
  | failed failure =>
    dsimp only
    rw [Option.map_map]
    congr 1
    funext rest
    exact (after_after events run.events rest).symm
  | faulted fault => rfl

/-- The same outcome, and the same tracker afterwards. -/
structure EndsAlike (run run' : Run S α) : Prop where
  outcome : run.outcome = run'.outcome
  tracker : run.memory.tracker = run'.memory.tracker

end Run

namespace Action

theorem orElse_of_not_failed {first second : Action S α} {offset : Nat} {memory : Memory S}
    {run : Run S α} (hrun : first offset memory = some run)
    (hends : ∀ failure, run.outcome ≠ .failed failure) :
    first.orElse second offset memory = some run := by
  unfold Action.orElse
  rw [hrun, Option.bind_some]
  exact Run.orElse_eq_some_iff.mpr (.inr ⟨hends, rfl⟩)

theorem orElse_assoc (first second third : Action S α) :
    (first.orElse second).orElse third = first.orElse (second.orElse third) := by
  funext offset memory
  cases hrun : first offset memory with
  | none => simp [Action.orElse, hrun]
  | some run =>
    by_cases hends : ∃ failure, run.outcome = .failed failure
    · obtain ⟨failure, hfailed⟩ := hends
      show ((first.orElse second) offset memory).bind (·.orElse (third offset)) = _
      rw [orElse_of_failed hrun hfailed, orElse_of_failed hrun hfailed]
      unfold Action.orElse
      rw [Option.bind_map, Option.map_bind]
      congr 1
      funext rest
      exact Run.orElse_after run.events rest (third offset)
    · have hends := not_exists.mp hends
      rw [orElse_of_not_failed (orElse_of_not_failed hrun hends) hends,
        orElse_of_not_failed hrun hends]

end Action

namespace Parser

variable {grammar : Grammar S} {input : Text} {p : Parser S α} {fuel offset : Nat}
  {memory middle : Memory S} {run : Run S α}

theorem runWithin_orElse (p q : Parser S α) (fuel : Nat) :
    (p.orElse q).runWithin grammar input fuel =
      (p.runWithin grammar input fuel).orElse (q.runWithin grammar input fuel) := by
  cases fuel <;> rfl

theorem runWithin_orElse_assoc (p q r : Parser S α) (fuel : Nat) :
    ((p.orElse q).orElse r).runWithin grammar input fuel =
      (p.orElse (q.orElse r)).runWithin grammar input fuel := by
  simp only [runWithin_orElse, Action.orElse_assoc]

theorem IsPlain.orElse_self (hg : grammar.IsPlain) (hp : p.IsPlain) (fuel : Nat)
    (hcells : memory.cells.Faithful grammar) :
    Option.Rel Run.EndsAlike ((p.orElse p).runWithin grammar input fuel offset memory)
      (p.runWithin grammar input fuel offset memory) := by
  rw [runWithin_orElse]
  cases hrun : p.runWithin grammar input fuel offset memory with
  | none =>
    unfold Action.orElse
    rw [hrun]
    exact .none
  | some run =>
    by_cases hends : ∃ failure, run.outcome = .failed failure
    · obtain ⟨failure, hfailed⟩ := hends
      obtain ⟨again, hagain, hout, htracker⟩ := hp.replays hg fuel hcells hrun
      rw [Action.orElse_of_failed hrun hfailed, hagain]
      exact .some ⟨hout, htracker⟩
    · rw [Action.orElse_of_not_failed hrun (not_exists.mp hends)]
      exact .some ⟨rfl, rfl⟩

/-- A plain parser never reports anything that lies before its start. -/
theorem IsPlain.le_offset_of_mem_reports (hg : grammar.IsPlain) (hp : p.IsPlain)
    (hoffset : input.IsBoundary offset) (hcells : memory.cells.Faithful grammar)
    (hrun : p.runWithin grammar input fuel offset memory = some run) {failure : Failure}
    (hmem : failure ∈ Event.reports run.events) : offset ≤ failure.offset :=
  ((staysInside_runWithin hg hp hrun hcells hoffset).places _
    (Event.offset_mem_places hmem)).start_le

/-- What lay no further than the start is forgotten when a plain parser fails. -/
theorem IsPlain.tracker_of_failed (hg : grammar.IsPlain) (hp : p.IsPlain)
    (hoffset : input.IsBoundary offset) (hcells : memory.cells.Faithful grammar)
    (hrun : p.runWithin grammar input fuel offset memory = some run) {failure : Failure}
    (hfailed : run.outcome = .failed failure) (t : Tracker) (expected : String) :
    (t.report ⟨offset, expected⟩).reportAll (Event.reports run.events) =
      t.reportAll (Event.reports run.events) := by
  have hlast := getLast?_reports_of_failed hg hp hcells hrun hfailed
  cases hreports : Event.reports run.events with
  | nil =>
    rw [hreports] at hlast
    cases hlast
  | cons first rest =>
    have hle : offset ≤ first.offset :=
      hp.le_offset_of_mem_reports hg hoffset hcells hrun (by simp [hreports])
    rw [Tracker.reportAll_cons, Tracker.reportAll_cons, Tracker.report_report_of_le t hle]

theorem IsPlain.never_orElse (hg : grammar.IsPlain) (hp : p.IsPlain)
    (hoffset : input.IsBoundary offset) (expected : String) (fuel : Nat)
    (hcells : memory.cells.Faithful grammar) :
    Option.Rel
      (fun run run' => run.outcome = run'.outcome ∧
        ∀ failure, run'.outcome = .failed failure → run.EndsAlike run')
      (((never expected).orElse p).runWithin grammar input fuel offset memory)
      (p.runWithin grammar input fuel offset memory) := by
  cases fuel with
  | zero => exact .none
  | succ fuel =>
    let missed : Run S α := .failing memory ⟨offset, expected⟩
    have hnever : (never expected).runWithin grammar input (fuel + 1) offset memory = some missed :=
      rfl
    have hmissed : missed.memory.cells.Faithful grammar := hcells
    have halike := hp.rel_alike hg input (fuel + 1) offset hmissed hcells
    rw [runWithin_orElse, Action.orElse_of_failed hnever rfl]
    generalize hsecond : p.runWithin grammar input (fuel + 1) offset missed.memory = result
      at halike ⊢
    generalize hrun : p.runWithin grammar input (fuel + 1) offset memory = alone at halike ⊢
    cases halike with
    | none => exact .none
    | @some second run hsame =>
      obtain ⟨hout, hreports⟩ := hsame
      refine .some ⟨hout, fun failure hfailed => ⟨hout, ?_⟩⟩
      -- The report of `never` comes first and lies at the start, so a failing run covers it.
      have htracker := (faithful_and_tracker_of_run hcells hrun).2
      have htracker' := (faithful_and_tracker_of_run hmissed hsecond).2
      have hforgotten := hp.tracker_of_failed hg hoffset hcells hrun hfailed memory.tracker expected
      rw [hreports] at htracker'
      exact htracker'.trans (hforgotten.trans htracker.symm)

section Alternatives

/-- All of these fail, one after another at the same offset. -/
inductive GivenUp (grammar : Grammar S) (input : Text) (fuel offset : Nat) :
    List (Parser S α) → Memory S → List (Event S.Rule) → Memory S → Prop where
  | none (memory : Memory S) : GivenUp grammar input fuel offset [] memory [] memory
  | next {p : Parser S α} {ps : List (Parser S α)} {memory memory' : Memory S} {run : Run S α}
    {failure : Failure} {events : List (Event S.Rule)}
    (ran : p.runWithin grammar input fuel offset memory = some run)
    (failed : run.outcome = .failed failure)
    (rest : GivenUp grammar input fuel offset ps run.memory events memory') :
    GivenUp grammar input fuel offset (p :: ps) memory (run.events ++ events) memory'

/-- The alternatives up to one are tried in order at the offset: those before it fail, it does not
fail or is the last one, and those behind it are not run. -/
def Scans (grammar : Grammar S) (input : Text) (fuel offset : Nat)
    (alternatives : List (Parser S α)) (memory : Memory S) (run : Run S α) : Prop :=
  ∃ before p after events middle final, alternatives = before ++ p :: after ∧
    GivenUp grammar input fuel offset before memory events middle ∧
    p.runWithin grammar input fuel offset middle = some final ∧
    (after = [] ∨ ∀ failure, final.outcome ≠ .failed failure) ∧ final.after events = run

theorem scans_singleton_iff :
    Scans grammar input fuel offset [p] memory run ↔
      p.runWithin grammar input fuel offset memory = some run := by
  constructor
  · rintro ⟨before, q, after, events, middle, final, hsplit, hbefore, hfinal, -, rfl⟩
    obtain ⟨rfl, hrest⟩ | ⟨before', rfl, hrest⟩ := List.cons_eq_append_iff.mp hsplit
    · cases hrest
      cases hbefore
      exact hfinal
    · simp at hrest
  · intro hrun
    exact ⟨[], p, [], [], memory, run, rfl, .none memory, hrun, .inl rfl, rfl⟩

theorem scans_cons_cons_iff {q : Parser S α} {ps : List (Parser S α)} :
    Scans grammar input fuel offset (p :: q :: ps) memory run ↔
      ∃ first, p.runWithin grammar input fuel offset memory = some first ∧
        ((∃ failure rest, first.outcome = .failed failure ∧
          Scans grammar input fuel offset (q :: ps) first.memory rest ∧
            rest.after first.events = run) ∨
        (∀ failure, first.outcome ≠ .failed failure) ∧ first = run) := by
  constructor
  · rintro ⟨before, r, after, events, middle, final, hsplit, hbefore, hfinal, hends, rfl⟩
    obtain ⟨rfl, hrest⟩ | ⟨before', rfl, hrest⟩ := List.cons_eq_append_iff.mp hsplit
    · cases hrest
      cases hbefore
      exact ⟨final, hfinal, .inr ⟨hends.resolve_left (by simp), rfl⟩⟩
    · cases hbefore with
      | @next _ _ _ _ first failure events' ran failed rest =>
        refine ⟨first, ran, .inl ⟨failure, final.after events', failed, ?_, ?_⟩⟩
        · exact ⟨before', r, after, events', middle, final, hrest, rest, hfinal, hends, rfl⟩
        · exact Run.after_after first.events events' final
  · rintro ⟨first, ran, ⟨failure, rest, failed, hscans, rfl⟩ | ⟨hends, rfl⟩⟩
    · obtain ⟨before, r, after, events, middle, final, hsplit, hbefore, hfinal, hends, rfl⟩ :=
        hscans
      refine ⟨p :: before, r, after, first.events ++ events, middle, final, ?_,
        .next ran failed hbefore, hfinal, hends, ?_⟩
      · rw [hsplit, List.cons_append]
      · exact (Run.after_after first.events events final).symm
    · exact ⟨[], p, q :: ps, [], memory, first, rfl, .none memory, ran, .inr hends, rfl⟩

/-- The choice is made from the left, yet each alternative is tried where the first one was. -/
theorem runWithin_alt_cons (p q : Parser S α) (ps : List (Parser S α)) (fuel : Nat) :
    (alt p (q :: ps)).runWithin grammar input fuel =
      (p.runWithin grammar input fuel).orElse ((alt q ps).runWithin grammar input fuel) := by
  -- `alt` is a fold from the left, so its first two are one alternative to the others.
  induction ps generalizing p q with
  | nil => exact runWithin_orElse p q fuel
  | cons r ps ih =>
    show (alt (p.orElse q) (r :: ps)).runWithin grammar input fuel = _
    rw [ih, ih, runWithin_orElse, Action.orElse_assoc]

theorem runWithin_alt_iff {ps : List (Parser S α)} :
    (alt p ps).runWithin grammar input fuel offset memory = some run ↔
      Scans grammar input fuel offset (p :: ps) memory run := by
  induction ps generalizing p memory run with
  | nil => exact scans_singleton_iff.symm
  | cons q ps ih =>
    rw [runWithin_alt_cons, scans_cons_cons_iff]
    refine Option.bind_eq_some_iff.trans (exists_congr fun first => and_congr_right fun _ => ?_)
    rw [Run.orElse_eq_some_iff]
    simp only [ih]

theorem altOf_eq_ok_iff {alternatives : List (Parser S α)} {choice : Parser S α} :
    altOf alternatives = .ok choice ↔ ∃ p ps, alternatives = p :: ps ∧ alt p ps = choice := by
  cases alternatives <;> simp [altOf]

end Alternatives

/-- Choices can be regrouped without a trace. One between twice the same is no choice, nor is one
that begins with what never matches, as far as the outcome and the tracker after a failure go. A
choice from a list is the scan of the list. -/
theorem orElse_laws (hg : grammar.IsPlain) (hp : p.IsPlain) (hoffset : input.IsBoundary offset)
    (hcells : memory.cells.Faithful grammar) :
    (∀ (q r : Parser S α) (fuel : Nat),
      ((p.orElse q).orElse r).runWithin grammar input fuel offset memory =
        (p.orElse (q.orElse r)).runWithin grammar input fuel offset memory) ∧
    (∀ fuel, Option.Rel Run.EndsAlike ((p.orElse p).runWithin grammar input fuel offset memory)
      (p.runWithin grammar input fuel offset memory)) ∧
    (∀ (expected : String) (fuel : Nat),
      Option.Rel
        (fun run run' => run.outcome = run'.outcome ∧
          ∀ failure, run'.outcome = .failed failure → run.EndsAlike run')
        (((never expected).orElse p).runWithin grammar input fuel offset memory)
        (p.runWithin grammar input fuel offset memory)) ∧
    ∀ (alternatives : List (Parser S α)) (choice : Parser S α), altOf alternatives = .ok choice →
      ∀ fuel run, choice.runWithin grammar input fuel offset memory = some run ↔
        Scans grammar input fuel offset alternatives memory run := by
  refine ⟨?_, fun fuel => hp.orElse_self hg fuel hcells,
    fun expected fuel => hp.never_orElse hg hoffset expected fuel hcells, ?_⟩
  · intro q r fuel
    rw [runWithin_orElse_assoc]
  · intro alternatives choice hchoice fuel run
    obtain ⟨q, qs, rfl, rfl⟩ := altOf_eq_ok_iff.mp hchoice
    exact runWithin_alt_iff

end Parser

/-- Behind the first bracket the second one is read before the parser fails, so the report at 4
outlives the failure at 3. In the list that failure is passed over, and nothing follows the
match. -/
theorem Nested.inParentheses_choice :
    (∃ twice, (inParentheses.orElse inParentheses).runWithin Nested.grammar "é((x".toList 9 2
        (.fresh .empty) = some twice ∧
      twice.outcome = .failed ⟨3, "')'"⟩ ∧ twice.memory.tracker = ⟨4, some "')'"⟩) ∧
    (∃ behind, ((Parser.never "x").orElse inParentheses).runWithin Nested.grammar "é((x".toList 9 2
        (.fresh .empty) = some behind ∧
      behind.outcome = .failed ⟨3, "')'"⟩ ∧ behind.memory.tracker = ⟨4, some "')'"⟩) ∧
    ∃ run, (Parser.alt (.never "x") [inParentheses, .always (7 : Nat), nest]).runWithin
        Nested.grammar "é((x".toList 9 2 (.fresh .empty) = some run ∧
      run.outcome = .matched 7 2 ∧
      Parser.Scans Nested.grammar "é((x".toList 9 2
        [.never "x", inParentheses, .always (7 : Nat), nest] (.fresh .empty) run := by
  have hboundary : Text.IsBoundary "é((x".toList 2 := ⟨['é'], ['(', '(', 'x'], rfl, by decide⟩
  have hcells : (Memory.fresh .empty : Memory Nested).cells.Faithful Nested.grammar :=
    Cells.faithful_empty
  have halone : (inParentheses.runWithin Nested.grammar "é((x".toList 9 2 (.fresh .empty)).map
      (fun run => (run.outcome, run.memory.tracker)) =
        some (.failed ⟨3, "')'"⟩, ⟨4, some "')'"⟩) := by
    decide +kernel
  have hlist : ((Parser.alt (.never "x") [inParentheses, .always (7 : Nat), nest]).runWithin
      Nested.grammar "é((x".toList 9 2 (.fresh .empty)).map (·.outcome) =
        some (.matched 7 2) := by
    decide +kernel
  obtain ⟨alone, hrun, hend⟩ := Option.map_eq_some_iff.mp halone
  obtain ⟨hfailed, htracker⟩ := Prod.mk.inj hend
  obtain ⟨run, hchosen, hmatched⟩ := Option.map_eq_some_iff.mp hlist
  obtain ⟨-, htwice, hnever, hscan⟩ :=
    Parser.orElse_laws isPlain_grammar isPlain_inParentheses hboundary hcells
  have htwice := htwice 9
  have hnever := hnever "x" 9
  rw [hrun] at htwice hnever
  generalize hrun2 : (inParentheses.orElse inParentheses).runWithin Nested.grammar "é((x".toList 9 2
    (.fresh .empty) = twice at htwice
  generalize hrun3 : ((Parser.never "x").orElse inParentheses).runWithin Nested.grammar
    "é((x".toList 9 2 (.fresh .empty) = behind at hnever
  refine ⟨?_, ?_, run, hchosen, hmatched, (hscan _ _ rfl 9 run).mp hchosen⟩
  · cases htwice with
    | some hsame =>
      exact ⟨_, rfl, hsame.outcome.trans hfailed, hsame.tracker.trans htracker⟩
  · cases hnever with
    | some hsame =>
      exact ⟨_, rfl, hsame.1.trans hfailed, (hsame.2 _ hfailed).tracker.trans htracker⟩

end Descent
