import Descent.Proofs.FirstRun

/-!
# Lazy nodes are transparent

A lazy node saves the construction of a body that it may never need, and allows grammars that are
recursive. Nothing else can be told from it: not from verdicts, reports or errors, and not from
parsers that have been used before.
-/

namespace Descent

variable {S : Signature} {α : Type} {grammar : Grammar S} {input : Text}

namespace Parse

theorem events_conclude (failure : Failure) (events : List (Event S.Rule)) (memory : Memory S) :
    ∃ later, (conclude input failure events memory : Parse S α).events = events ++ later ∧
      ∀ event ∈ later, event.isAccount := by
  unfold conclude
  cases ParseError.at? input (memory.tracker.failure?.getD failure) with
  | none => exact ⟨[], (List.append_nil events).symm, by simp⟩
  | some error => exact ⟨[.concluded error], rfl, by simp [Event.isAccount]⟩

theorem events_ofRunPartial (run : Run S α) :
    ∃ later, (ofRunPartial input run).events = run.events ++ later ∧
      ∀ event ∈ later, event.isAccount := by
  unfold ofRunPartial
  cases run.outcome with
  | matched value next => exact ⟨[], (List.append_nil run.events).symm, by simp⟩
  | failed failure => exact events_conclude failure run.events run.memory
  | faulted fault => exact ⟨[], (List.append_nil run.events).symm, by simp⟩

theorem events_ofRun (run : Run S α) :
    ∃ later, (ofRun input run).events = run.events ++ later ∧
      ∀ event ∈ later, event.isAccount := by
  unfold ofRun
  cases run.outcome with
  | matched value next =>
    dsimp only
    split
    · exact ⟨[], (List.append_nil run.events).symm, by simp⟩
    · let observed : List (Event S.Rule) × Tracker := run.memory.tracker.observe ⟨next, "EOF"⟩
      have hconclude : ∃ later, (conclude input ⟨next, "EOF"⟩ (run.events ++ observed.1)
          { run.memory with tracker := observed.2 } : Parse S α).events =
            run.events ++ observed.1 ++ later ∧ ∀ event ∈ later, event.isAccount :=
        events_conclude ..
      obtain ⟨later, hlater, haccount⟩ := hconclude
      refine ⟨observed.1 ++ later, hlater.trans (List.append_assoc ..), ?_⟩
      intro event hevent
      rcases List.mem_append.mp hevent with hobserved | hconcluded
      · exact Event.isAccount_of_mem_observe hobserved
      · exact haccount event hconcluded
  | failed failure => exact events_conclude failure run.events run.memory
  | faulted fault => exact ⟨[], (List.append_nil run.events).symm, by simp⟩

end Parse

theorem Request.events_judge (request : Request) (run : Run S α) :
    ∃ later, (request.judge run).events = run.events ++ later ∧
      ∀ event ∈ later, event.isAccount := by
  cases request with
  | whole input => exact Parse.events_ofRun run
  | beginning input => exact Parse.events_ofRunPartial run

namespace Parser

variable {fuel : Text → Nat} {p : Parser S α} {watch : Node S}

theorem exists_unfolded_answer {request : Request} {cells : Cells S}
    {parse : Parse S (α × Option Nat)} (h : p.answer fuel grammar request cells = some parse) :
    ∃ parse', (p.unfolded watch []).answer fuel (grammar.unfolded watch) request
        (cells.unfolded watch []) = some parse' ∧
      parse'.verdict = parse.verdict ∧ parse'.cells = parse.cells.unfolded watch [] ∧
      Event.constructions parse.events = (Event.constructions parse'.events).map Node.rule := by
  rw [answer_eq] at h
  obtain ⟨run, hrun, rfl⟩ := Option.map_eq_some_iff.mp h
  have hmemory : (Coupling.unfolding watch []).Memories (.fresh cells)
      (.fresh (cells.unfolded watch [])) := ⟨rfl, rfl⟩
  obtain ⟨run', hrun', hruns⟩ := unfolding_simulates_runWithin [] _ p rfl hmemory hrun
  refine ⟨request.judge run', ?_, ?_, ?_, ?_⟩
  · rw [answer_eq]
    exact Option.map_eq_some_iff.mpr ⟨run', hrun', rfl⟩
  · exact request.verdict_judge (hruns.outcomes.eq rfl).symm hruns.memories.trackers.symm
  · rw [request.cells_judge, request.cells_judge]
    exact hruns.memories.cells
  · obtain ⟨later, hlater, haccount⟩ := request.events_judge run
    obtain ⟨later', hlater', haccount'⟩ := request.events_judge run'
    rw [hlater, hlater', Event.constructions_append, Event.constructions_append,
      Event.constructions_eq_nil haccount, Event.constructions_eq_nil haccount', List.append_nil,
      List.append_nil]
    exact hruns.events

theorem exists_unfolded_session {requests : List Request} {cells : Cells S}
    {parses : List (Parse S (α × Option Nat))}
    (h : p.answerAll fuel grammar requests cells = some parses) :
    ∃ unfolded, (p.unfolded watch []).answerAll fuel (grammar.unfolded watch) requests
        (cells.unfolded watch []) = some unfolded ∧
      unfolded.map Parse.verdict = parses.map Parse.verdict ∧
      Event.constructions (parses.flatMap Parse.events) =
        (Event.constructions (unfolded.flatMap Parse.events)).map Node.rule := by
  induction requests generalizing cells parses with
  | nil =>
    cases h
    exact ⟨[], rfl, rfl, rfl⟩
  | cons request requests ih =>
    obtain ⟨parse, hparse, hmore⟩ := Option.bind_eq_some_iff.mp h
    obtain ⟨rest, hrest, hparses⟩ := Option.bind_eq_some_iff.mp hmore
    cases hparses
    obtain ⟨parse', hparse', hverdict, hcells, hconstructions⟩ := exists_unfolded_answer hparse
    obtain ⟨rest', hrest', hverdicts, hmoreConstructions⟩ := ih hrest
    refine ⟨parse' :: rest', ?_, ?_, ?_⟩
    · rw [answerAll, hparse', Option.bind_eq_bind, Option.bind_some, hcells, hrest']
      rfl
    · rw [List.map_cons, List.map_cons, hverdict, hverdicts]
    · rw [List.flatMap_cons, List.flatMap_cons, Event.constructions_append,
        Event.constructions_append, List.map_append, hconstructions, hmoreConstructions]

theorem fares_answerAll {requests : List Request} {cells : Cells S.unfolded}
    (hcells : cells.Faithful (grammar.unfolded watch))
    {parses : List (Parse S.unfolded (α × Option Nat))}
    (h : (p.unfolded watch []).answerAll fuel (grammar.unfolded watch) requests cells =
      some parses) :
    ∃ after, Fares (Cells.filled [] watch.way cells)
      (Event.stages watch (parses.flatMap Parse.events)) after := by
  induction requests generalizing cells parses with
  | nil =>
    cases h
    exact ⟨_, .refl _⟩
  | cons request requests ih =>
    obtain ⟨parse, hparse, hmore⟩ := Option.bind_eq_some_iff.mp h
    obtain ⟨rest, hrest, hparses⟩ := Option.bind_eq_some_iff.mp hmore
    cases hparses
    rw [answer_eq] at hparse
    obtain ⟨run, hrun, rfl⟩ := Option.map_eq_some_iff.mp hparse
    obtain ⟨hleft, hfares⟩ := faring_runWithin_unfolded [] _ p hrun hcells
    rw [request.cells_judge] at hrest
    obtain ⟨after, hlater⟩ := ih hleft hrest
    obtain ⟨later, hevents, haccount⟩ := request.events_judge run
    refine ⟨after, ?_⟩
    rw [List.flatMap_cons, hevents, Event.stages_append, Event.stages_append,
      Event.stages_eq_nil haccount, List.append_nil]
    exact hfares.append hlater

theorem verdict_of_simulates {grammar' : Grammar S} {p' : Parser S α} {fuel' : Text → Nat}
    {request : Request} {verdict : Verdict (α × Option Nat)}
    (hsim : (Coupling.exact grammar grammar').Simulates
      (p.runWithin grammar request.input (fuel request.input))
      (p'.runWithin grammar' request.input (fuel' request.input)))
    (h : (p.answer fuel grammar request .empty).map Parse.verdict = some verdict) :
    (p'.answer fuel' grammar' request .empty).map Parse.verdict = some verdict := by
  rw [answer_eq, Option.map_map] at h ⊢
  obtain ⟨run, hrun, rfl⟩ := Option.map_eq_some_iff.mp h
  have hmemory : (Coupling.exact grammar grammar').Memories (.fresh .empty) (.fresh .empty) :=
    ⟨rfl, Cells.faithful_empty, Cells.faithful_empty⟩
  obtain ⟨run', hrun', hruns⟩ := hsim rfl hmemory hrun
  refine Option.map_eq_some_iff.mpr ⟨run', hrun', ?_⟩
  exact request.verdict_judge (hruns.outcomes.eq rfl).symm hruns.memories.trackers.symm

/-- No request tells whether bodies of rules are in the place of lazy nodes. -/
theorem verdict_inlined_iff (inside : S.Rule → Nat → S.Rule → Bool)
    (chosen : Nat → S.Rule → Bool) (p : Parser S α) (request : Request)
    (verdict : Verdict (α × Option Nat)) :
    (∃ fuel, (p.answer fuel grammar request .empty).map Parse.verdict = some verdict) ↔
      ∃ fuel, ((p.inlined grammar chosen).answer fuel (grammar.inlined inside) request
        .empty).map Parse.verdict = some verdict := by
  constructor
  · rintro ⟨fuel, hfuel⟩
    exact ⟨fuel, verdict_of_simulates (simulates_runWithin_inlined inside chosen _ p) hfuel⟩
  · rintro ⟨fuel, hfuel⟩
    exact ⟨fun input => 2 * fuel input,
      verdict_of_simulates (inlined_simulates_runWithin inside chosen _ p) hfuel⟩

/-- A session gives the verdicts of parsers that were never used before. Every node of the parser
is constructed in its first run of the whole session, if it runs at all, and then no more. And with
the bodies of rules in the place of lazy nodes, however these are chosen, runs end alike after the
same reports, and parses have the same verdicts. -/
theorem lazy_transparent (grammar : Grammar S) (p : Parser S α) (fuel : Text → Nat)
    (requests : List Request) :
    (p.answerAll fuel grammar requests .empty).map (List.map Parse.verdict) =
        requests.mapM (fun request =>
          (p.answer fuel grammar request .empty).map Parse.verdict) ∧
      (∀ parses, p.answerAll fuel grammar requests .empty = some parses → ∀ watch,
        ∃ unfolded, (p.unfolded watch []).answerAll fuel (grammar.unfolded watch) requests .empty =
            some unfolded ∧
          unfolded.map Parse.verdict = parses.map Parse.verdict ∧
          Event.constructions (parses.flatMap Parse.events) =
            (Event.constructions (unfolded.flatMap Parse.events)).map Node.rule ∧
          ConstructedOnFirstRun watch (unfolded.flatMap Parse.events)) ∧
      ∀ inside chosen,
        (∀ input offset tracker cells cells', cells.Faithful grammar →
          cells'.Faithful (grammar.inlined inside) → ∀ ending,
            (∃ fuel, (p.runWithin grammar input fuel offset ⟨tracker, cells⟩).map Run.ending =
              some ending) ↔
            ∃ fuel, ((p.inlined grammar chosen).runWithin (grammar.inlined inside) input fuel offset
              ⟨tracker, cells'⟩).map Run.ending = some ending) ∧
        ∀ request verdict,
          (∃ fuel, (p.answer fuel grammar request .empty).map Parse.verdict = some verdict) ↔
          ∃ fuel, ((p.inlined grammar chosen).answer fuel (grammar.inlined inside) request
            .empty).map Parse.verdict = some verdict := by
  refine ⟨answerAll_verdicts Cells.faithful_empty requests, ?_, ?_⟩
  · intro parses hparses watch
    obtain ⟨unfolded, hunfolded, hverdicts, hconstructions⟩ := exists_unfolded_session hparses
    obtain ⟨after, hfares⟩ := fares_answerAll Cells.faithful_empty hunfolded
    rw [Cells.filled_empty] at hfares
    exact ⟨unfolded, hunfolded, hverdicts, hconstructions, hfares.constructedOnFirstRun⟩
  · intro inside chosen
    constructor
    · intro input offset tracker cells cells' hcells hcells' ending
      exact runWithin_inlined_iff inside chosen p input offset tracker hcells hcells' ending
    · intro request verdict
      exact verdict_inlined_iff inside chosen p request verdict

end Parser

namespace Nested

/-- One request ends with an error and one with a fault before the two that are accepted. -/
def requests : List Request :=
  [.whole "(".toList, .whole "(())".toList, .beginning "()é".toList, .whole "()".toList]

def innerNode : Node Nested where
  within := [(0, ())]
  slot := 0
  rule := ()

theorem shallow_transparent :
    ∃ parses unfolded, shallow.answerAll (fun _ => 9) Nested.grammar requests .empty = some parses ∧
      (parses.map Parse.verdict).tail =
        [.faulted .noAlternative, .accepted (1, some 2), .accepted (1, none)] ∧
      requests.mapM (fun request => (shallow.answer (fun _ => 9) Nested.grammar request
        .empty).map Parse.verdict) = some (parses.map Parse.verdict) ∧
      (shallow.unfolded innerNode []).answerAll (fun _ => 9) (Nested.grammar.unfolded innerNode)
        requests .empty = some unfolded ∧
      ConstructedOnFirstRun innerNode (unfolded.flatMap Parse.events) ∧
      ∃ fuel, ((shallow.inlined Nested.grammar fun _ _ => true).runWithin
        (Nested.grammar.inlined fun _ _ _ => true) "()".toList fuel 0 ⟨.empty, .empty⟩).map
          Run.ending = some (.matched 1 2, [⟨1, "'('"⟩], ⟨1, some "'('"⟩) := by
  have hverdicts : ((shallow.answerAll (fun _ => 9) Nested.grammar requests .empty).map
      fun parses => (parses.map Parse.verdict).tail) =
        some [.faulted .noAlternative, .accepted (1, some 2), .accepted (1, none)] := by
    decide +kernel
  have hending : ((shallow.runWithin Nested.grammar "()".toList 9 0
      ⟨.empty, Cells.empty.put 0 () nest .empty⟩).map Run.ending) =
        some (.matched 1 2, [⟨1, "'('"⟩], ⟨1, some "'('"⟩) := by
    decide +kernel
  obtain ⟨parses, hparses, htail⟩ := Option.map_eq_some_iff.mp hverdicts
  obtain ⟨hfresh, hnodes, hinlined⟩ :=
    Parser.lazy_transparent Nested.grammar shallow (fun _ => 9) requests
  obtain ⟨unfolded, hunfolded, -, -, hfirst⟩ := hnodes parses hparses innerNode
  obtain ⟨hruns, -⟩ := hinlined (fun _ _ _ => true) fun _ _ => true
  rw [hparses] at hfresh
  refine ⟨parses, unfolded, hparses, htail, hfresh.symm, hunfolded, hfirst, ?_⟩
  exact (hruns "()".toList 0 .empty _ _ faithful_put_nest Cells.faithful_empty _).mp ⟨9, hending⟩

end Nested

end Descent
