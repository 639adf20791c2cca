import Descent.Proofs.Reordering

/-!
# Left factoring

Two alternatives that begin in the same way can be tried with the beginning read once or twice.
What the second reading reports has been reported before, so the outcome is the same and the
tracker gets equally far; but a tie may be decided in another way, since the beginning then has its
say after the first alternative.
-/

namespace Descent

variable {S : Signature} {α β : Type}

namespace Tracker

theorem offset_failure?_congr {t : Tracker} {xs ys : List Failure}
    (h : ∀ failure, failure ∈ xs ↔ failure ∈ ys) :
    (t.reportAll xs).failure?.map Failure.offset =
      (t.reportAll ys).failure?.map Failure.offset := by
  have hnil : xs = [] ↔ ys = [] := by
    simp only [List.eq_nil_iff_forall_not_mem, h]
  have hnone : (t.reportAll xs).failure? = none ↔ (t.reportAll ys).failure? = none := by
    rw [failure?_reportAll_eq_none_iff, failure?_reportAll_eq_none_iff, hnil]
  cases hxs : (t.reportAll xs).failure? with
  | none => rw [hnone.mp hxs]
  | some last =>
    cases hys : (t.reportAll ys).failure? with
    | none => cases hxs.symm.trans (hnone.mpr hys)
    | some last' =>
      have hfurthest : (t.reportAll xs).furthest = (t.reportAll ys).furthest :=
        furthest_reportAll_congr h
      rw [(failure?_eq_some_iff.mp hxs).2, (failure?_eq_some_iff.mp hys).2] at hfurthest
      exact congrArg some hfurthest

end Tracker

namespace Run

/-- The same outcome after the same reports, however often and in whatever order they were made. -/
structure Comparable (run run' : Run S α) : Prop where
  outcome : run.outcome = run'.outcome
  mem_reports_iff : ∀ failure,
    failure ∈ Event.reports run.events ↔ failure ∈ Event.reports run'.events

/-- Comparable runs that both began with this tracker. -/
structure ComparableFrom (t : Tracker) (run run' : Run S α) : Prop extends
    run.Comparable run' where
  tracker : run.memory.tracker = t.reportAll (Event.reports run.events)
  tracker' : run'.memory.tracker = t.reportAll (Event.reports run'.events)

variable {run run' run'' : Run S α} {t : Tracker}

theorem Comparable.refl (run : Run S α) : run.Comparable run :=
  ⟨rfl, fun _ => Iff.rfl⟩

theorem Comparable.trans_alike (h : run.Comparable run') (h' : run'.Alike run'') :
    run.Comparable run'' := by
  refine ⟨h.outcome.trans h'.1, fun failure => ?_⟩
  rw [h.mem_reports_iff, h'.2]

/-- What was done before may be done again in between, as far as the reports go. -/
theorem Alike.comparable_after (h : run.Alike run') {before again : List (Event S.Rule)}
    (hagain : ∀ failure ∈ Event.reports again, failure ∈ Event.reports before) :
    (run.after before).Comparable ((run'.after again).after before) := by
  refine ⟨h.1, fun failure => ?_⟩
  show failure ∈ Event.reports (before ++ run.events) ↔
    failure ∈ Event.reports (before ++ (again ++ run'.events))
  simp only [Event.reports_append, List.mem_append, h.2]
  have := hagain failure
  tauto

namespace ComparableFrom

theorem furthest (h : run.ComparableFrom t run') :
    run.memory.tracker.furthest = run'.memory.tracker.furthest := by
  rw [h.tracker, h.tracker']
  exact Tracker.furthest_reportAll_congr h.mem_reports_iff

theorem offset_failure? (h : run.ComparableFrom t run') :
    run.memory.tracker.failure?.map Failure.offset =
      run'.memory.tracker.failure?.map Failure.offset := by
  rw [h.tracker, h.tracker']
  exact Tracker.offset_failure?_congr h.mem_reports_iff

/-- One more report, at the end of both. -/
theorem offset_failure?_report (h : run.ComparableFrom t run') (last : Failure) :
    (run.memory.tracker.report last).failure?.map Failure.offset =
      (run'.memory.tracker.report last).failure?.map Failure.offset := by
  rw [h.tracker, h.tracker', ← Tracker.reportAll_concat, ← Tracker.reportAll_concat]
  apply Tracker.offset_failure?_congr
  intro failure
  rw [List.mem_append, List.mem_append, h.mem_reports_iff]

end ComparableFrom

end Run

/-- The same value or fault, or errors at the same place. -/
inductive Verdict.AgreesInPlace : Verdict α → Verdict α → Prop where
  | accepted (value : α) : AgreesInPlace (.accepted value) (.accepted value)
  | rejected {error error' : ParseError} (h : error.offset = error'.offset) :
    AgreesInPlace (.rejected error) (.rejected error')
  | faulted (fault : Fault) : AgreesInPlace (.faulted fault) (.faulted fault)

theorem ParseError.rel_at? (input : Text) {failure failure' : Failure}
    (h : failure.offset = failure'.offset) :
    Option.Rel (fun error error' => error.offset = error'.offset) (ParseError.at? input failure)
      (ParseError.at? input failure') := by
  obtain ⟨message, -, hat⟩ := exists_at?_eq_map input failure
  obtain ⟨message', -, hat'⟩ := exists_at?_eq_map input failure'
  rw [hat, hat', h]
  cases Position.resolve? input failure'.offset with
  | none => exact .none
  | some position => exact .some rfl

namespace Parse

variable {input : Text}

theorem conclude_agreesInPlace {failure : Failure} {events events' : List (Event S.Rule)}
    {memory memory' : Memory S}
    (h : memory.tracker.failure?.map Failure.offset = memory'.tracker.failure?.map Failure.offset) :
    ((conclude input failure events memory : Parse S α).verdict).AgreesInPlace
      (conclude input failure events' memory').verdict := by
  have hoffset : (memory.tracker.failure?.getD failure).offset =
      (memory'.tracker.failure?.getD failure).offset := by
    rw [← Option.getD_map Failure.offset, h, Option.getD_map]
  have hrel := ParseError.rel_at? input hoffset
  unfold conclude
  generalize ParseError.at? input (memory.tracker.failure?.getD failure) = result at hrel ⊢
  generalize ParseError.at? input (memory'.tracker.failure?.getD failure) = result' at hrel ⊢
  cases hrel with
  | none => exact .faulted .badOffset
  | some hsame => exact .rejected hsame

variable {run run' : Run S α} {t : Tracker}

theorem ofRunPartial_agreesInPlace (h : run.ComparableFrom t run') :
    (ofRunPartial input run).verdict.AgreesInPlace (ofRunPartial input run').verdict := by
  unfold ofRunPartial
  rw [h.outcome]
  cases run'.outcome with
  | matched value next => exact .accepted (value, next)
  | failed failure => exact conclude_agreesInPlace h.offset_failure?
  | faulted fault => exact .faulted fault

theorem ofRun_agreesInPlace (h : run.ComparableFrom t run') :
    (ofRun input run).verdict.AgreesInPlace (ofRun input run').verdict := by
  unfold ofRun
  rw [h.outcome]
  cases run'.outcome with
  | matched value next =>
    dsimp only
    split
    · exact .accepted value
    · exact conclude_agreesInPlace (h.offset_failure?_report ⟨next, "EOF"⟩)
  | failed failure => exact conclude_agreesInPlace h.offset_failure?
  | faulted fault => exact .faulted fault

end Parse

namespace Parser

variable {grammar : Grammar S} {input : Text} {p : Parser S α} {q r : Parser S β}
  {fuel offset middle : Nat} {memory : Memory S} {run : Run S α} {second : Run S β}
  {value : α} {failure : Failure}

/-- If the beginning fails, it fails once more. -/
theorem rel_factored_of_failed (hg : grammar.IsPlain) (hp : p.IsPlain)
    (hcells : memory.cells.Faithful grammar)
    (hrun : p.runWithin grammar input fuel offset memory = some run)
    (hfailed : run.outcome = .failed failure) :
    Option.Rel Run.Comparable
      ((p.andThen (q.orElse r)).runWithin grammar input fuel offset memory)
      (((p.andThen q).orElse (p.andThen r)).runWithin grammar input fuel offset memory) := by
  obtain ⟨hleft, -⟩ := faithful_and_tracker_of_run hcells hrun
  obtain ⟨again, hagain, hout, hreports⟩ := hp.exists_alike hg hcells hleft hrun
  have hfailed' : again.outcome = .failed failure := hout.symm.trans hfailed
  unfold andThen
  rw [runWithin_orElse, runWithin_bind, runWithin_bind, runWithin_bind,
    Action.bind_of_failed hrun hfailed,
    Action.orElse_of_failed (Action.bind_of_failed hrun hfailed) rfl,
    Action.bind_of_failed hagain hfailed', Option.map_some]
  refine .some ⟨rfl, fun other => ?_⟩
  show other ∈ Event.reports run.events ↔ other ∈ Event.reports (run.events ++ again.events)
  rw [Event.reports_append, ← hreports, List.mem_append, or_self]

/-- If the first alternative fails behind the beginning, the second one is tried in the same place,
either at once or after the beginning has matched once more. -/
theorem rel_factored_of_missed (hg : grammar.IsPlain) (hp : p.IsPlain) (hr : r.IsPlain)
    (hcells : memory.cells.Faithful grammar)
    (hrun : p.runWithin grammar input fuel offset memory = some run)
    (hmatched : run.outcome = .matched value middle)
    (hsecond : q.runWithin grammar input fuel middle run.memory = some second)
    (hmissed : second.outcome = .failed failure) :
    Option.Rel Run.Comparable
      ((p.andThen (q.orElse r)).runWithin grammar input fuel offset memory)
      (((p.andThen q).orElse (p.andThen r)).runWithin grammar input fuel offset memory) := by
  obtain ⟨hmiddle, -⟩ := faithful_and_tracker_of_run hcells hrun
  obtain ⟨hleft, -⟩ := faithful_and_tracker_of_run hmiddle hsecond
  obtain ⟨again, hagain, hout, hreports⟩ := hp.exists_alike hg hcells hleft hrun
  obtain ⟨hready, -⟩ := faithful_and_tracker_of_run hleft hagain
  have hmatched' : again.outcome = .matched value middle := hout.symm.trans hmatched
  have hfirst : (p.andThen q).runWithin grammar input fuel offset memory =
      some (second.after run.events) := by
    unfold andThen
    rw [runWithin_bind, Action.bind_of_matched hrun hmatched, hsecond, Option.map_some]
  have hother : (p.andThen r).runWithin grammar input fuel offset second.memory =
      (r.runWithin grammar input fuel middle again.memory).map (.after again.events) := by
    unfold andThen
    rw [runWithin_bind, Action.bind_of_matched hagain hmatched']
  have hfactored : (p.andThen (q.orElse r)).runWithin grammar input fuel offset memory =
      (r.runWithin grammar input fuel middle second.memory).map
        (.after (run.events ++ second.events)) := by
    unfold andThen
    rw [runWithin_bind, Action.bind_of_matched hrun hmatched, runWithin_orElse,
      Action.orElse_of_failed hsecond hmissed, Option.map_map]
    congr 1
    funext last
    exact Run.after_after run.events second.events last
  rw [hfactored, runWithin_orElse, Action.orElse_of_failed hfirst hmissed, Run.memory_after, hother,
    Option.map_map]
  apply rel_map _ (hr.rel_alike hg input fuel middle hleft hready)
  intro last last' hsame
  apply hsame.comparable_after
  intro report hreport
  rw [← hreports] at hreport
  rw [Event.reports_append]
  exact List.mem_append_left _ hreport

/-- Whatever else happens on the way to the first alternative is the end of both. -/
theorem runWithin_factored_of_not_failed
    (hends : ∀ run failure, (p.andThen q).runWithin grammar input fuel offset memory = some run →
      run.outcome ≠ .failed failure) :
    (p.andThen (q.orElse r)).runWithin grammar input fuel offset memory =
      ((p.andThen q).orElse (p.andThen r)).runWithin grammar input fuel offset memory := by
  have hchoice : ((p.andThen q).orElse (p.andThen r)).runWithin grammar input fuel offset memory =
      (p.andThen q).runWithin grammar input fuel offset memory := by
    rw [runWithin_orElse]
    cases hrun : (p.andThen q).runWithin grammar input fuel offset memory with
    | none =>
      unfold Action.orElse
      rw [hrun, Option.bind_none]
    | some run => exact Action.orElse_of_not_failed hrun fun failure => hends run failure hrun
  rw [hchoice]
  unfold andThen at hends ⊢
  rw [runWithin_bind] at hends
  rw [runWithin_bind, runWithin_bind]
  cases hrun : p.runWithin grammar input fuel offset memory with
  | none => rw [Action.bind_of_none hrun, Action.bind_of_none hrun]
  | some run =>
    cases hout : run.outcome with
    | matched value middle =>
      rw [Action.bind_of_matched hrun hout] at hends
      rw [Action.bind_of_matched hrun hout, Action.bind_of_matched hrun hout, runWithin_orElse]
      cases hsecond : q.runWithin grammar input fuel middle run.memory with
      | none =>
        unfold Action.orElse
        rw [hsecond, Option.bind_none]
      | some second =>
        rw [Action.orElse_of_not_failed hsecond]
        intro failure
        exact hends (second.after run.events) failure (by rw [hsecond, Option.map_some])
    | failed failure => rw [Action.bind_of_failed hrun hout, Action.bind_of_failed hrun hout]
    | faulted fault => rw [Action.bind_of_faulted hrun hout, Action.bind_of_faulted hrun hout]

theorem exists_of_andThen_failed {run : Run S β}
    (hrun : (p.andThen q).runWithin grammar input fuel offset memory = some run)
    (hfailed : run.outcome = .failed failure) :
    ∃ first, p.runWithin grammar input fuel offset memory = some first ∧
      (first.outcome = .failed failure ∨ ∃ value middle second,
        first.outcome = .matched value middle ∧
          q.runWithin grammar input fuel middle first.memory = some second ∧
            second.outcome = .failed failure) := by
  unfold andThen at hrun
  rw [runWithin_bind] at hrun
  obtain ⟨first, hfirst, hnext⟩ := Option.bind_eq_some_iff.mp hrun
  refine ⟨first, hfirst, ?_⟩
  rcases Run.andThen_eq_some_iff.mp hnext with
    ⟨value, middle, second, hmatched, hsecond, rfl⟩ | ⟨other, hout, rfl⟩ | ⟨fault, -, rfl⟩
  · exact .inr ⟨value, middle, second, hmatched, hsecond, hfailed⟩
  · cases hfailed
    exact .inl hout
  · cases hfailed

theorem rel_factored (hg : grammar.IsPlain) (hp : p.IsPlain) (hr : r.IsPlain) (input : Text)
    (fuel offset : Nat) (hcells : memory.cells.Faithful grammar) :
    Option.Rel Run.Comparable
      ((p.andThen (q.orElse r)).runWithin grammar input fuel offset memory)
      (((p.andThen q).orElse (p.andThen r)).runWithin grammar input fuel offset memory) := by
  by_cases hends : ∃ run failure,
      (p.andThen q).runWithin grammar input fuel offset memory = some run ∧
        run.outcome = .failed failure
  · obtain ⟨run, failure, hrun, hfailed⟩ := hends
    obtain ⟨first, hfirst, hout | ⟨value, middle, second, hout, hsecond, hmissed⟩⟩ :=
      exists_of_andThen_failed hrun hfailed
    · exact rel_factored_of_failed hg hp hcells hfirst hout
    · exact rel_factored_of_missed hg hp hr hcells hfirst hout hsecond hmissed
  · rw [runWithin_factored_of_not_failed]
    · cases ((p.andThen q).orElse (p.andThen r)).runWithin grammar input fuel offset memory with
      | none => exact .none
      | some run => exact .some (.refl run)
    · intro run failure hrun hfailed
      exact hends ⟨run, failure, hrun, hfailed⟩

/-- Both forms from the same tracker, each with cells of its own. -/
theorem rel_factored_of_cells (hg : grammar.IsPlain) (hp : p.IsPlain) (hq : q.IsPlain)
    (hr : r.IsPlain) (input : Text) (fuel offset : Nat) (t : Tracker) {cells cells' : Cells S}
    (hcells : cells.Faithful grammar) (hcells' : cells'.Faithful grammar) :
    Option.Rel (Run.ComparableFrom t)
      ((p.andThen (q.orElse r)).runWithin grammar input fuel offset ⟨t, cells⟩)
      (((p.andThen q).orElse (p.andThen r)).runWithin grammar input fuel offset ⟨t, cells'⟩) := by
  have hfirst : (⟨t, cells⟩ : Memory S).cells.Faithful grammar := hcells
  have hsecond : (⟨t, cells'⟩ : Memory S).cells.Faithful grammar := hcells'
  have hplain : ((p.andThen q).orElse (p.andThen r)).IsPlain :=
    ⟨hp.andThen hq, hp.andThen hr⟩
  have hfactored := rel_factored (q := q) hg hp hr input fuel offset hfirst
  have halike := hplain.rel_alike hg input fuel offset hfirst hsecond
  generalize hrun : (p.andThen (q.orElse r)).runWithin grammar input fuel offset ⟨t, cells⟩ =
    result at hfactored ⊢
  generalize ((p.andThen q).orElse (p.andThen r)).runWithin grammar input fuel offset ⟨t, cells⟩ =
    between at hfactored halike
  generalize hrun' : ((p.andThen q).orElse (p.andThen r)).runWithin grammar input fuel offset
    ⟨t, cells'⟩ = result' at halike ⊢
  cases hfactored with
  | none =>
    cases halike
    exact .none
  | some hsame =>
    cases halike with
    | some halike =>
      exact .some ⟨hsame.trans_alike halike, (faithful_and_tracker_of_run hfirst hrun).2,
        (faithful_and_tracker_of_run hsecond hrun').2⟩

/-- A common beginning may be taken out of a choice: the outcome is the same, the tracker gets
equally far, and so do the errors of whole parses. -/
theorem factored_agrees (hg : grammar.IsPlain) (hp : p.IsPlain) (hq : q.IsPlain) (hr : r.IsPlain)
    (input : Text) {cells cells' : Cells S} (hcells : cells.Faithful grammar)
    (hcells' : cells'.Faithful grammar) :
    (∀ (fuel offset : Nat) (t : Tracker), Option.Rel
      (fun run run' => run.outcome = run'.outcome ∧
        run.memory.tracker.furthest = run'.memory.tracker.furthest)
      ((p.andThen (q.orElse r)).runWithin grammar input fuel offset ⟨t, cells⟩)
      (((p.andThen q).orElse (p.andThen r)).runWithin grammar input fuel offset ⟨t, cells'⟩)) ∧
    (∀ fuel, Option.Rel (fun parse parse' => parse.verdict.AgreesInPlace parse'.verdict)
      ((p.andThen (q.orElse r)).parseWithin fuel grammar input cells)
      (((p.andThen q).orElse (p.andThen r)).parseWithin fuel grammar input cells')) ∧
    ∀ fuel, Option.Rel (fun parse parse' => parse.verdict.AgreesInPlace parse'.verdict)
      ((p.andThen (q.orElse r)).parsePartialWithin fuel grammar input cells)
      (((p.andThen q).orElse (p.andThen r)).parsePartialWithin fuel grammar input cells') := by
  refine ⟨fun fuel offset t => ?_, fun fuel => ?_, fun fuel => ?_⟩
  · apply rel_mono _ (rel_factored_of_cells hg hp hq hr input fuel offset t hcells hcells')
    intro run run' h
    exact ⟨h.outcome, h.furthest⟩
  · apply rel_map _ (rel_factored_of_cells hg hp hq hr input fuel 0 .empty hcells hcells')
    intro run run' h
    exact Parse.ofRun_agreesInPlace h
  · apply rel_map _ (rel_factored_of_cells hg hp hq hr input fuel 0 .empty hcells hcells')
    intro run run' h
    exact Parse.ofRunPartial_agreesInPlace h

end Parser

namespace Nested

def doubled : Parser Nested String :=
  (Parser.literal "((").andThen (.literal "x")

def factored : Parser Nested String :=
  inParentheses.many.andThen (doubled.orElse (.literal "y"))

def unfactored : Parser Nested String :=
  (inParentheses.many.andThen doubled).orElse (inParentheses.many.andThen (.literal "y"))

/-- The nest that is never closed and the missing `x` both end at 4. Read once, the nest comes first
there; read again, it has the last word. -/
theorem inParentheses_factored :
    (∃ run run', factored.runWithin Nested.grammar "()((".toList 9 0 (.fresh .empty) = some run ∧
      unfactored.runWithin Nested.grammar "()((".toList 9 0 (.fresh .empty) = some run' ∧
      run'.outcome = .failed ⟨2, "'y'"⟩ ∧ run.memory.tracker = ⟨4, some "'x'"⟩ ∧
      run'.memory.tracker = ⟨4, some "')'"⟩) ∧
    ∃ parse parse', factored.parseWithin 9 Nested.grammar "()((".toList .empty = some parse ∧
      unfactored.parseWithin 9 Nested.grammar "()((".toList .empty = some parse' ∧
      parse.verdict.AgreesInPlace parse'.verdict := by
  have hcells : (Cells.empty : Cells Nested).Faithful Nested.grammar := Cells.faithful_empty
  have hmany : inParentheses.many.IsPlain := isPlain_inParentheses
  have hdoubled : doubled.IsPlain := ⟨trivial, fun _ => trivial⟩
  have hliteral : (Parser.literal "y" : Parser Nested String).IsPlain := trivial
  have honce : (factored.runWithin Nested.grammar "()((".toList 9 0 (.fresh .empty)).map
      (fun run => (run.outcome, run.memory.tracker)) =
        some (.failed ⟨2, "'y'"⟩, ⟨4, some "'x'"⟩) := by
    decide +kernel
  have htwice : (unfactored.runWithin Nested.grammar "()((".toList 9 0 (.fresh .empty)).map
      (·.memory.tracker) = some ⟨4, some "')'"⟩ := by
    decide +kernel
  obtain ⟨run, hrun, hend⟩ := Option.map_eq_some_iff.mp honce
  obtain ⟨hfailed, htracker⟩ := Prod.mk.inj hend
  obtain ⟨run', hrun', htracker'⟩ := Option.map_eq_some_iff.mp htwice
  have hparse : factored.parseWithin 9 Nested.grammar "()((".toList .empty =
      some (.ofRun "()((".toList run) := Option.map_eq_some_iff.mpr ⟨run, hrun, rfl⟩
  have hparse' : unfactored.parseWithin 9 Nested.grammar "()((".toList .empty =
      some (.ofRun "()((".toList run') := Option.map_eq_some_iff.mpr ⟨run', hrun', rfl⟩
  obtain ⟨hruns, hparses, -⟩ := Parser.factored_agrees isPlain_grammar hmany hdoubled hliteral
    "()((".toList hcells hcells
  have hends := hruns 9 0 .empty
  have hverdicts := hparses 9
  change Option.Rel _ (factored.runWithin Nested.grammar "()((".toList 9 0 (.fresh .empty))
    (unfactored.runWithin Nested.grammar "()((".toList 9 0 (.fresh .empty)) at hends
  change Option.Rel _ (factored.parseWithin 9 Nested.grammar "()((".toList .empty)
    (unfactored.parseWithin 9 Nested.grammar "()((".toList .empty) at hverdicts
  rw [hrun, hrun'] at hends
  rw [hparse, hparse'] at hverdicts
  constructor
  · cases hends with
    | some hsame => exact ⟨run, run', hrun, hrun', hsame.1.symm.trans hfailed, htracker, htracker'⟩
  · cases hverdicts with
    | some hsame => exact ⟨_, _, hparse, hparse', hsame⟩

end Nested

end Descent
