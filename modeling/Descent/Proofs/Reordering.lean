import Descent.Proofs.Choice

/-!
# The order of alternatives

Each alternative of a choice is tried from a memory that the ones before it have left, yet a plain
parser attempts the same from all of them. So what the alternatives report, taken together, does
not depend on their order. The order shows in one place only: of several alternatives that report
at the furthest offset, the last one decides what was expected there.
-/

namespace Descent

variable {S : Signature} {α : Type}

namespace Parser

variable {grammar : Grammar S} {input : Text} {p : Parser S α} {fuel offset : Nat}
  {ps alternatives reordered : List (Parser S α)} {memory memory' : Memory S}
  {events : List (Event S.Rule)} {failure : Failure}

/-- An attempt of the parser at the offset reports this failure. -/
def Reports (grammar : Grammar S) (input : Text) (p : Parser S α) (offset : Nat)
    (failure : Failure) : Prop :=
  ∃ outcome reports, p.Attempts grammar input offset outcome reports ∧ failure ∈ reports

theorem IsPlain.reports_iff (hg : grammar.IsPlain) (hp : p.IsPlain) {run : Run S α}
    (hcells : memory.cells.Faithful grammar)
    (hrun : p.runWithin grammar input fuel offset memory = some run) :
    p.Reports grammar input offset failure ↔ failure ∈ Event.reports run.events := by
  have hattempt := attempts_of_run hcells hrun
  constructor
  · rintro ⟨outcome, reports, hattempt', hmem⟩
    rwa [(hattempt.unique hg hp hattempt').2]
  · exact fun hmem => ⟨run.outcome, Event.reports run.events, hattempt, hmem⟩

namespace GivenUp

theorem faithful_and_tracker (h : GivenUp grammar input fuel offset ps memory events memory')
    (hcells : memory.cells.Faithful grammar) :
    memory'.cells.Faithful grammar ∧
      memory'.tracker = memory.tracker.reportAll (Event.reports events) := by
  induction h with
  | none memory => exact ⟨hcells, rfl⟩
  | next ran failed rest ih =>
    obtain ⟨hfaithful, htracker⟩ := faithful_and_tracker_of_run hcells ran
    obtain ⟨hleft, hafter⟩ := ih hfaithful
    refine ⟨hleft, ?_⟩
    rw [hafter, htracker, Event.reports_append, Tracker.reportAll_append]

theorem split {qs : List (Parser S α)}
    (h : GivenUp grammar input fuel offset (ps ++ qs) memory events memory') :
    ∃ first middle rest, GivenUp grammar input fuel offset ps memory first middle ∧
      GivenUp grammar input fuel offset qs middle rest memory' ∧ events = first ++ rest := by
  induction ps generalizing memory events with
  | nil => exact ⟨[], memory, events, .none memory, h, rfl⟩
  | cons p ps ih =>
    cases h with
    | @next _ _ _ _ run _ _ ran failed rest =>
      obtain ⟨first, middle, others, hfirst, hothers, rfl⟩ := ih rest
      refine ⟨run.events ++ first, middle, others, .next ran failed hfirst, hothers, ?_⟩
      exact (List.append_assoc run.events first others).symm

/-- Taken together, the reports are those of the alternatives, whatever their order. -/
theorem mem_reports_iff (hg : grammar.IsPlain) (hps : ∀ p ∈ ps, p.IsPlain)
    (h : GivenUp grammar input fuel offset ps memory events memory')
    (hcells : memory.cells.Faithful grammar) :
    failure ∈ Event.reports events ↔ ∃ p ∈ ps, p.Reports grammar input offset failure := by
  induction h with
  | none memory => simp
  | @next p ps memory memory' run _ events ran failed rest ih =>
    rw [List.forall_mem_cons] at hps
    have hfirst : p.Reports grammar input offset failure ↔ failure ∈ Event.reports run.events :=
      hps.1.reports_iff hg hcells ran
    have hrest := ih hps.2 (faithful_and_tracker_of_run hcells ran).1
    rw [Event.reports_append, List.mem_append, hrest, ← hfirst]
    simp only [List.mem_cons, exists_eq_or_imp]

theorem exists_of_fails (hg : grammar.IsPlain) (hps : ∀ p ∈ ps, p.IsPlain)
    (hfails : ∀ p ∈ ps, ∃ failure, p.Answers grammar input offset (.failed failure)) :
    ∃ enough, ∀ fuel, enough ≤ fuel → ∀ memory : Memory S, memory.cells.Faithful grammar →
      ∃ events memory', GivenUp grammar input fuel offset ps memory events memory' := by
  induction ps with
  | nil => exact ⟨0, fun fuel _ memory _ => ⟨[], memory, .none memory⟩⟩
  | cons p ps ih =>
    rw [List.forall_mem_cons] at hps hfails
    obtain ⟨⟨failure, hanswer⟩, hothers⟩ := hfails
    obtain ⟨enough, hall⟩ := hanswer.exists_run hg hps.1
    obtain ⟨enough', hall'⟩ := ih hps.2 hothers
    refine ⟨max enough enough', fun fuel hfuel memory hcells => ?_⟩
    obtain ⟨run, hrun, hfailed⟩ := hall fuel (by omega) memory hcells
    obtain ⟨events, memory', hrest⟩ :=
      hall' fuel (by omega) run.memory (faithful_and_tracker_of_run hcells hrun).1
    exact ⟨run.events ++ events, memory', .next hrun hfailed hrest⟩

theorem exists_runWithin_alt
    (h : GivenUp grammar input fuel offset (p :: ps) memory events memory') :
    ∃ run failure, (alt p ps).runWithin grammar input fuel offset memory = some run ∧
      run.outcome = .failed failure ∧ run.events = events ∧ run.memory = memory' := by
  induction ps generalizing p memory events with
  | nil =>
    cases h with
    | @next _ _ _ _ run failure _ ran failed rest =>
      cases rest
      exact ⟨run, failure, ran, failed, (List.append_nil run.events).symm, rfl⟩
  | cons q ps ih =>
    cases h with
    | @next _ _ _ _ run _ _ ran failed rest =>
      obtain ⟨others, failure, hothers, hfailed, rfl, rfl⟩ := ih rest
      refine ⟨others.after run.events, failure, ?_, hfailed, rfl, rfl⟩
      rw [runWithin_alt_cons, Action.orElse_of_failed ran failed, hothers, Option.map_some]

end GivenUp

/-- What alternatives that all fail make of the tracker: it stays if none of them reports at the
furthest offset; otherwise the last one that does decides, as it would alone. -/
structure Settle (grammar : Grammar S) (input : Text) (offset : Nat)
    (alternatives : List (Parser S α)) (before after : Tracker) : Prop where
  within : ∀ p ∈ alternatives, ∀ failure, p.Reports grammar input offset failure →
    failure.offset ≤ after.furthest
  kept : (∀ p ∈ alternatives, ∀ failure, p.Reports grammar input offset failure →
    failure.offset ≠ after.furthest) → after = before
  decided : ∀ front p back, alternatives = front ++ p :: back →
    (∃ failure, p.Reports grammar input offset failure ∧ failure.offset = after.furthest) →
    (∀ q ∈ back, ∀ failure, q.Reports grammar input offset failure →
      failure.offset ≠ after.furthest) →
    ∃ (outcome : Outcome α) (reports : List Failure) (failure : Failure),
      p.Attempts grammar input offset outcome reports ∧
      failure.IsLastFurthest reports ∧ failure.offset = after.furthest ∧
        after.expected = some failure.expected

namespace GivenUp

theorem decided (hg : grammar.IsPlain) {front back : List (Parser S α)}
    (hps : ∀ q ∈ front ++ p :: back, q.IsPlain)
    (h : GivenUp grammar input fuel offset (front ++ p :: back) memory events memory')
    (hcells : memory.cells.Faithful grammar) {last : Failure}
    (hlast : last.IsLastFurthest (memory.tracker.failure?.toList ++ Event.reports events))
    (hreaches : ∃ failure, p.Reports grammar input offset failure ∧ failure.offset = last.offset)
    (hback : ∀ q ∈ back, ∀ failure, q.Reports grammar input offset failure →
      failure.offset ≠ last.offset) :
    ∃ outcome reports, p.Attempts grammar input offset outcome reports ∧
      last.IsLastFurthest reports := by
  obtain ⟨first, middle, rest, hfront, hrest, rfl⟩ := h.split
  obtain ⟨hmiddle, -⟩ := hfront.faithful_and_tracker hcells
  cases hrest with
  | @next _ _ _ _ run _ others ran failed hothers =>
    obtain ⟨hleft, -⟩ := faithful_and_tracker_of_run hmiddle ran
    have hp : p.IsPlain := hps p (by simp)
    have hqs : ∀ q ∈ back, q.IsPlain := fun q hq => hps q (by simp [hq])
    refine ⟨run.outcome, Event.reports run.events, attempts_of_run hmiddle ran, ?_⟩
    rw [Event.reports_append, Event.reports_append, ← List.append_assoc] at hlast
    apply hlast.of_append
    · obtain ⟨failure, hreports, hoffset⟩ := hreaches
      exact ⟨failure, (hp.reports_iff hg hmiddle ran).mp hreports, hoffset⟩
    · intro failure hmem
      obtain ⟨q, hq, hreports⟩ := (hothers.mem_reports_iff hg hqs hleft).mp hmem
      exact hback q hq failure hreports

theorem settle (hg : grammar.IsPlain) (hps : ∀ p ∈ ps, p.IsPlain)
    (h : GivenUp grammar input fuel offset ps memory events memory')
    (hcells : memory.cells.Faithful grammar) :
    Settle grammar input offset ps memory.tracker memory'.tracker := by
  obtain ⟨-, htracker⟩ := h.faithful_and_tracker hcells
  have hmem : ∀ failure, failure ∈ Event.reports events ↔
      ∃ p ∈ ps, p.Reports grammar input offset failure := fun _ => h.mem_reports_iff hg hps hcells
  cases hheld : memory'.tracker.failure? with
  | none =>
    -- Then nothing was reported at all.
    rw [htracker, Tracker.failure?_reportAll_eq_none_iff] at hheld
    have hnone : ∀ p ∈ ps, ∀ failure, ¬ p.Reports grammar input offset failure := by
      intro p hp failure hreports
      have hreported := (hmem failure).mpr ⟨p, hp, hreports⟩
      rw [hheld.2] at hreported
      cases hreported
    refine ⟨fun p hp failure hreports => absurd hreports (hnone p hp failure), fun _ => ?_, ?_⟩
    · rw [htracker, hheld.2, Tracker.reportAll_nil]
    · rintro front p back rfl ⟨failure, hreports, -⟩
      exact absurd hreports (hnone p (by simp) failure)
  | some last =>
    have hlast : last.IsLastFurthest (memory.tracker.failure?.toList ++ Event.reports events) :=
      Tracker.isLastFurthest_reportAll (htracker ▸ hheld)
    rw [Tracker.eq_of_failure? hheld]
    refine ⟨?_, ?_, ?_⟩
    · intro p hp failure hreports
      exact hlast.offset_le failure (List.mem_append_right _ ((hmem failure).mpr ⟨p, hp, hreports⟩))
    · intro hnone
      rcases List.mem_append.mp hlast.mem with hbefore | hreported
      · exact (Tracker.eq_of_failure? (Option.mem_toList.mp hbefore)).symm
      · obtain ⟨p, hp, hreports⟩ := (hmem last).mp hreported
        exact absurd rfl (hnone p hp last hreports)
    · rintro front p back rfl hreaches hback
      obtain ⟨outcome, reports, hattempts, hdecides⟩ :=
        h.decided hg hps hcells hlast hreaches hback
      exact ⟨outcome, reports, last, hattempts, hdecides, rfl, rfl⟩

end GivenUp

/-- One alternative matches and the others fail, so those before it are given up and it ends the
scan, wherever it stands. -/
theorem exists_scan_of_matched (hg : grammar.IsPlain) (hps : ∀ q ∈ ps, q.IsPlain)
    {others : List (Parser S α)} (hperm : ps.Perm (p :: others)) {value : α} {next : Nat}
    (hmatches : p.Answers grammar input offset (.matched value next))
    (hfails : ∀ q ∈ others, ∃ failure, q.Answers grammar input offset (.failed failure)) :
    ∃ enough, ∀ fuel, enough ≤ fuel → ∀ memory : Memory S, memory.cells.Faithful grammar →
      ∃ run, Scans grammar input fuel offset ps memory run ∧
        run.outcome = .matched value next := by
  have hmem : p ∈ ps := hperm.mem_iff.mpr (List.mem_cons_self ..)
  obtain ⟨before, after, rfl⟩ := List.append_of_mem hmem
  have hothers : (before ++ after).Perm others :=
    (List.perm_middle.symm.trans hperm).cons_inv
  have hbefore : ∀ q ∈ before, ∃ failure, q.Answers grammar input offset (.failed failure) := by
    intro q hq
    exact hfails q (hothers.mem_iff.mp (List.mem_append_left after hq))
  have hplain : ∀ q ∈ before, q.IsPlain := fun q hq => hps q (List.mem_append_left _ hq)
  obtain ⟨enough, hall⟩ := GivenUp.exists_of_fails hg hplain hbefore
  obtain ⟨enough', hall'⟩ := hmatches.exists_run hg (hps p hmem)
  refine ⟨max enough enough', fun fuel hfuel memory hcells => ?_⟩
  obtain ⟨events, middle, hgiven⟩ := hall fuel (by omega) memory hcells
  obtain ⟨run, hrun, hmatched⟩ :=
    hall' fuel (by omega) middle (hgiven.faithful_and_tracker hcells).1
  refine ⟨run.after events, ?_, hmatched⟩
  refine ⟨before, p, after, events, middle, run, rfl, hgiven, hrun, .inr ?_, rfl⟩
  rw [hmatched]
  intro failure hfailed
  cases hfailed

theorem exists_altOf (hsome : alternatives ≠ []) :
    ∃ p ps, alternatives = p :: ps ∧ altOf alternatives = .ok (alt p ps) := by
  obtain ⟨p, ps, rfl⟩ := List.exists_cons_of_ne_nil hsome
  exact ⟨p, ps, rfl, rfl⟩

/-- The order of alternatives matters to nothing but ties. If all of them fail, the choice from any
order of them fails and gets as far; the last one in the order that got there says what was
expected. If a single one matches, it is chosen in any order. -/
theorem altOf_perm (hg : grammar.IsPlain) (hplain : ∀ p ∈ alternatives, p.IsPlain)
    (hsome : alternatives ≠ []) (hperm : alternatives.Perm reordered) (input : Text) (offset : Nat)
    (hcells : memory.cells.Faithful grammar) (hcells' : memory'.cells.Faithful grammar)
    (htracker : memory'.tracker = memory.tracker) :
    ∃ choice choice', altOf alternatives = .ok choice ∧ altOf reordered = .ok choice' ∧
      ((∀ p ∈ alternatives, ∃ failure, p.Answers grammar input offset (.failed failure)) →
        ∃ enough, ∀ fuel, enough ≤ fuel → ∃ run run' failure failure',
          choice.runWithin grammar input fuel offset memory = some run ∧
          choice'.runWithin grammar input fuel offset memory' = some run' ∧
          run.outcome = .failed failure ∧ run'.outcome = .failed failure' ∧
          run'.memory.tracker.furthest = run.memory.tracker.furthest ∧
          Settle grammar input offset alternatives memory.tracker run.memory.tracker ∧
          Settle grammar input offset reordered memory.tracker run'.memory.tracker) ∧
      ∀ p others value next, alternatives.Perm (p :: others) →
        p.Answers grammar input offset (.matched value next) →
        (∀ q ∈ others, ∃ failure, q.Answers grammar input offset (.failed failure)) →
        ∃ enough, ∀ fuel, enough ≤ fuel → ∃ run run',
          choice.runWithin grammar input fuel offset memory = some run ∧
          choice'.runWithin grammar input fuel offset memory' = some run' ∧
          run.outcome = .matched value next ∧ run'.outcome = .matched value next := by
  have hplain' : ∀ p ∈ reordered, p.IsPlain := fun p hp => hplain p (hperm.mem_iff.mpr hp)
  have hsome' : reordered ≠ [] := by
    rintro rfl
    exact hsome hperm.eq_nil
  obtain ⟨p, ps, rfl, hchoice⟩ := exists_altOf hsome
  obtain ⟨p', ps', rfl, hchoice'⟩ := exists_altOf hsome'
  refine ⟨alt p ps, alt p' ps', hchoice, hchoice', fun hfails => ?_, ?_⟩
  · have hfails' : ∀ q ∈ p' :: ps', ∃ failure, q.Answers grammar input offset (.failed failure) :=
      fun q hq => hfails q (hperm.mem_iff.mpr hq)
    obtain ⟨enough, hall⟩ := GivenUp.exists_of_fails hg hplain hfails
    obtain ⟨enough', hall'⟩ := GivenUp.exists_of_fails hg hplain' hfails'
    refine ⟨max enough enough', fun fuel hfuel => ?_⟩
    obtain ⟨_, _, hgiven⟩ := hall fuel (by omega) memory hcells
    obtain ⟨_, _, hgiven'⟩ := hall' fuel (by omega) memory' hcells'
    obtain ⟨run, failure, hrun, hfailed, rfl, rfl⟩ := hgiven.exists_runWithin_alt
    obtain ⟨run', failure', hrun', hfailed', rfl, rfl⟩ := hgiven'.exists_runWithin_alt
    refine ⟨run, run', failure, failure', hrun, hrun', hfailed, hfailed', ?_,
      hgiven.settle hg hplain hcells, htracker ▸ hgiven'.settle hg hplain' hcells'⟩
    rw [(hgiven.faithful_and_tracker hcells).2, (hgiven'.faithful_and_tracker hcells').2, htracker]
    apply Tracker.furthest_reportAll_congr
    intro other
    rw [hgiven.mem_reports_iff hg hplain hcells, hgiven'.mem_reports_iff hg hplain' hcells']
    simp only [hperm.mem_iff]
  · intro q others value next hone hmatches hfails
    obtain ⟨enough, hall⟩ := exists_scan_of_matched hg hplain hone hmatches hfails
    obtain ⟨enough', hall'⟩ :=
      exists_scan_of_matched hg hplain' (hperm.symm.trans hone) hmatches hfails
    refine ⟨max enough enough', fun fuel hfuel => ?_⟩
    obtain ⟨run, hscan, hmatched⟩ := hall fuel (by omega) memory hcells
    obtain ⟨run', hscan', hmatched'⟩ := hall' fuel (by omega) memory' hcells'
    exact ⟨run, run', runWithin_alt_iff.mpr hscan, runWithin_alt_iff.mpr hscan', hmatched,
      hmatched'⟩

end Parser

namespace Nested

def digitInside : Parser Nested Nat :=
  (Parser.literal "((").andThen (.never "digit")

/-- Both get to 4 before they fail, and whichever comes last says what was expected there. -/
theorem inParentheses_reordered :
    (∃ fuel run run', (Parser.alt inParentheses [digitInside]).runWithin Nested.grammar
        "é((x".toList fuel 2 (.fresh .empty) = some run ∧
      (Parser.alt digitInside [inParentheses]).runWithin Nested.grammar "é((x".toList fuel 2
        (.fresh .empty) = some run' ∧
      run.memory.tracker = ⟨4, some "digit"⟩ ∧ run'.memory.tracker = ⟨4, some "')'"⟩ ∧
      Parser.Settle Nested.grammar "é((x".toList 2 [inParentheses, digitInside] .empty
        run.memory.tracker ∧
      Parser.Settle Nested.grammar "é((x".toList 2 [digitInside, inParentheses] .empty
        run'.memory.tracker) ∧
    ∃ fuel run run', (Parser.alt inParentheses [.always (7 : Nat)]).runWithin Nested.grammar
        "é((x".toList fuel 2 (.fresh .empty) = some run ∧
      (Parser.alt (.always (7 : Nat)) [inParentheses]).runWithin Nested.grammar "é((x".toList fuel 2
        (.fresh .empty) = some run' ∧
      run.outcome = .matched 7 2 ∧ run'.outcome = .matched 7 2 := by
  have hcells : (Memory.fresh .empty : Memory Nested).cells.Faithful Nested.grammar :=
    Cells.faithful_empty
  have hdigit : digitInside.IsPlain := ⟨trivial, fun _ => trivial⟩
  have hpairs : ∀ p ∈ [inParentheses, digitInside], p.IsPlain := by
    simp [hdigit, isPlain_inParentheses]
  have hseven : (Parser.always 7 : Parser Nested Nat).IsPlain := trivial
  have hpairs' : ∀ p ∈ [inParentheses, .always (7 : Nat)], p.IsPlain := by
    simp [hseven, isPlain_inParentheses]
  have hfirst : (inParentheses.runWithin Nested.grammar "é((x".toList 9 2 (.fresh .empty)).map
      (·.outcome) = some (.failed ⟨3, "')'"⟩) := by
    decide +kernel
  have hsecond : (digitInside.runWithin Nested.grammar "é((x".toList 9 2 (.fresh .empty)).map
      (·.outcome) = some (.failed ⟨4, "digit"⟩) := by
    decide +kernel
  have htracker : ((Parser.alt inParentheses [digitInside]).runWithin Nested.grammar "é((x".toList 9
      2 (.fresh .empty)).map (·.memory.tracker) = some ⟨4, some "digit"⟩ := by
    decide +kernel
  have htracker' : ((Parser.alt digitInside [inParentheses]).runWithin Nested.grammar
      "é((x".toList 9 2 (.fresh .empty)).map (·.memory.tracker) = some ⟨4, some "')'"⟩ := by
    decide +kernel
  obtain ⟨first, hrunFirst, hfailed⟩ := Option.map_eq_some_iff.mp hfirst
  obtain ⟨second, hrunSecond, hfailed'⟩ := Option.map_eq_some_iff.mp hsecond
  have hanswer := hfailed ▸ Parser.answers_of_run hcells hrunFirst
  have hanswer' := hfailed' ▸ Parser.answers_of_run hcells hrunSecond
  constructor
  · obtain ⟨_, _, hchoice, hchoice', hfails, -⟩ := Parser.altOf_perm isPlain_grammar hpairs
      (by simp) (.swap digitInside inParentheses []) "é((x".toList 2 hcells hcells rfl
    cases hchoice
    cases hchoice'
    obtain ⟨enough, hall⟩ := hfails (by simpa using ⟨⟨_, hanswer⟩, ⟨_, hanswer'⟩⟩)
    obtain ⟨run, run', _, _, hrun, hrun', -, -, -, hsettle, hsettle'⟩ :=
      hall (max enough 9) (Nat.le_max_left _ _)
    obtain ⟨done, hdone, hends⟩ := Option.map_eq_some_iff.mp htracker
    obtain ⟨done', hdone', hends'⟩ := Option.map_eq_some_iff.mp htracker'
    cases Parser.runWithin_fuel_unique hdone hrun
    cases Parser.runWithin_fuel_unique hdone' hrun'
    exact ⟨max enough 9, run, run', hrun, hrun', hends, hends', hsettle, hsettle'⟩
  · obtain ⟨_, _, hchoice, hchoice', -, hmatches⟩ := Parser.altOf_perm isPlain_grammar hpairs'
      (by simp) (.swap (.always 7) inParentheses []) "é((x".toList 2 hcells hcells rfl
    cases hchoice
    cases hchoice'
    have halways : (Parser.always (7 : Nat)).Answers Nested.grammar "é((x".toList 2
        (.matched 7 2) := ⟨1, .fresh .empty, _, hcells, rfl, rfl⟩
    obtain ⟨enough, hall⟩ := hmatches (.always 7) [inParentheses] 7 2
      (.swap (.always 7) inParentheses []) halways (by simpa using ⟨_, hanswer⟩)
    obtain ⟨run, run', hrun, hrun', hends⟩ := hall enough (Nat.le_refl enough)
    exact ⟨enough, run, run', hrun, hrun', hends⟩

end Nested

end Descent
