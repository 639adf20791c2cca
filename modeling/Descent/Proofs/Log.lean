import Descent.Proofs.FurthestFailure

/-!
# What the log says

A tracker takes a failure for the furthest one just when it lies no nearer than any failure that
was reported before. So the log of a parse traces the advances among its reports, and where it ends
with a conclusion, that is the error of the parse and repeats the last advance.
-/

namespace Descent

variable {S : Signature} {α : Type} {grammar : Grammar S} {input : Text} {Allowed : Kind}

namespace Failure

/-- The failures that lie no nearer than any one before them, where `before` came first. -/
def advancesAfter (before : List Failure) : List Failure → List Failure
  | [] => []
  | failure :: rest =>
    if ∀ earlier ∈ before, earlier.offset ≤ failure.offset then
      failure :: advancesAfter (before ++ [failure]) rest
    else advancesAfter (before ++ [failure]) rest

def advances (failures : List Failure) : List Failure :=
  advancesAfter [] failures

variable {before failures : List Failure} {failure : Failure}

theorem advancesAfter_singleton (before : List Failure) (failure : Failure) :
    advancesAfter before [failure] =
      if ∀ earlier ∈ before, earlier.offset ≤ failure.offset then [failure] else [] :=
  rfl

theorem advancesAfter_cons (before : List Failure) (first : Failure) (rest : List Failure) :
    advancesAfter before (first :: rest) =
      advancesAfter before [first] ++ advancesAfter (before ++ [first]) rest := by
  rw [advancesAfter_singleton, advancesAfter]
  split <;> rfl

theorem advancesAfter_append (before xs ys : List Failure) :
    advancesAfter before (xs ++ ys) =
      advancesAfter before xs ++ advancesAfter (before ++ xs) ys := by
  induction xs generalizing before with
  | nil => rw [List.append_nil, List.nil_append, advancesAfter, List.nil_append]
  | cons x xs ih =>
    rw [List.cons_append, advancesAfter_cons, ih, advancesAfter_cons before x xs]
    simp only [List.append_assoc, List.singleton_append]

theorem offset_le_of_mem_advancesAfter (h : failure ∈ advancesAfter before failures) :
    ∀ earlier ∈ before, earlier.offset ≤ failure.offset := by
  induction failures generalizing before with
  | nil => cases h
  | cons first rest ih =>
    rw [advancesAfter_cons, advancesAfter_singleton] at h
    rcases List.mem_append.mp h with hfirst | hrest
    · split at hfirst
      · next hahead => rwa [List.mem_singleton.mp hfirst]
      · cases hfirst
    · intro earlier hearlier
      exact ih hrest earlier (List.mem_append_left _ hearlier)

theorem pairwise_advancesAfter (before failures : List Failure) :
    (advancesAfter before failures).Pairwise (·.offset ≤ ·.offset) := by
  induction failures generalizing before with
  | nil => exact .nil
  | cons first rest ih =>
    unfold advancesAfter
    split
    · refine .cons ?_ (ih _)
      intro failure hmem
      exact offset_le_of_mem_advancesAfter hmem first (by simp)
    · exact ih _

end Failure

namespace Tracker

/-- What a tracker accepts after some reports are the failures that no report lies beyond. -/
theorem accepts_reportAll_iff {before : List Failure} {failure : Failure} :
    (empty.reportAll before).accepts failure = true ↔
      ∀ earlier ∈ before, earlier.offset ≤ failure.offset := by
  rw [accepts_after_iff]
  simp [accepts, empty]

theorem getLast?_advances (failures : List Failure) :
    (Failure.advances failures).getLast? = (empty.reportAll failures).failure? := by
  induction failures using List.reverseRecOn with
  | nil => rfl
  | append_singleton failures last ih =>
    unfold Failure.advances at ih ⊢
    rw [Failure.advancesAfter_append, List.nil_append, Failure.advancesAfter_singleton,
      reportAll_concat, failure?_report]
    by_cases h : ∀ earlier ∈ failures, earlier.offset ≤ last.offset
    · rw [if_pos h, if_pos (accepts_reportAll_iff.mpr h), List.getLast?_concat]
    · rw [if_neg h, if_neg (mt accepts_reportAll_iff.mp h), List.append_nil, ih]

end Tracker

namespace Event

variable {Rule : Type}

def furthest? : Event Rule → Option Failure
  | furthest failure => some failure
  | _ => none

/-- The failures that trackers took for the furthest ones, in order. -/
def traces (events : List (Event Rule)) : List Failure :=
  events.filterMap furthest?

@[simp]
theorem traces_nil : traces ([] : List (Event Rule)) = [] :=
  rfl

@[simp]
theorem traces_cons (event : Event Rule) (events : List (Event Rule)) :
    traces (event :: events) = event.furthest?.toList ++ traces events := by
  cases event <;> rfl

@[simp]
theorem traces_append (xs ys : List (Event Rule)) : traces (xs ++ ys) = traces xs ++ traces ys :=
  List.filterMap_append

def conclusion? : Event Rule → Option ParseError
  | concluded error => some error
  | _ => none

theorem filterMap_conclusion?_eq_nil {events : List (Event Rule)}
    (h : ∀ error, .concluded error ∉ events) : events.filterMap conclusion? = [] := by
  refine List.filterMap_eq_nil_iff.mpr fun event hevent => ?_
  cases event with
  | concluded error => exact absurd hevent (h error)
  | _ => rfl

/-- Whether a line is at a level of the log, the word that it starts with. -/
def isAtLevel (level : String) (line : String) : Bool :=
  (level ++ " ").toList.isPrefixOf line.toList

section Lines

variable [ToString Rule]

/-- The lines at a level are those of the events that have one there. -/
theorem filter_log {β : Type} {level : String} {select : Event Rule → Option β}
    {render : β → String}
    (h : ∀ event, (logLine? event).filter (isAtLevel level) = (select event).map render)
    (events : List (Event Rule)) :
    (log events).filter (isAtLevel level) = (events.filterMap select).map render := by
  induction events with
  | nil => rfl
  | cons event events ih =>
    have hevent := h event
    rw [log] at ih ⊢
    cases hline : logLine? event with
    | none =>
      rw [hline] at hevent
      rw [List.filterMap_cons_none hline, ih,
        List.filterMap_cons_none (Option.map_eq_none_iff.mp hevent.symm)]
    | some line =>
      rw [hline, Option.filter_some] at hevent
      rw [List.filterMap_cons_some hline, List.filter_cons, ih]
      split at hevent
      · next hlevel =>
        obtain ⟨b, hb, hrender⟩ := Option.map_eq_some_iff.mp hevent.symm
        rw [if_pos hlevel, List.filterMap_cons_some hb, List.map_cons, hrender]
      · next hlevel =>
        rw [if_neg hlevel, List.filterMap_cons_none (Option.map_eq_none_iff.mp hevent.symm)]

theorem filter_logLine?_trace (event : Event Rule) :
    (logLine? event).filter (isAtLevel "TRACE") = event.furthest?.map fun failure =>
      s!"TRACE furthest failure is now {failure.expected} at {failure.offset}" := by
  cases event <;>
    simp only [logLine?, furthest?, isAtLevel, Option.filter_some, String.toList_append] <;> rfl

theorem filter_logLine?_debug (event : Event Rule) :
    (logLine? event).filter (isAtLevel "DEBUG") = event.conclusion?.map fun error =>
      let place := s!"{error.position} (byte offset {error.offset})"
      s!"DEBUG Parse failed at {place}: expected {error.expected}" := by
  cases event <;>
    simp only [logLine?, conclusion?, isAtLevel, Option.filter_some, String.toList_append] <;> rfl

end Lines

theorem traces_observe {before : List Failure} (failure : Failure) :
    traces ((Tracker.empty.reportAll before).observe failure : List (Event Rule) × Tracker).1 =
      Failure.advancesAfter before [failure] := by
  unfold Tracker.observe
  rw [Failure.advancesAfter_singleton]
  by_cases h : ∀ earlier ∈ before, earlier.offset ≤ failure.offset
  · rw [if_pos h, if_pos (Tracker.accepts_reportAll_iff.mpr h)]
    rfl
  · rw [if_neg h, if_neg (mt Tracker.accepts_reportAll_iff.mp h)]
    rfl

theorem traces_observeAll (before failures : List Failure) :
    traces ((Tracker.empty.reportAll before).observeAll failures :
      List (Event Rule) × Tracker).1 = Failure.advancesAfter before failures := by
  induction failures generalizing before with
  | nil => rfl
  | cons first rest ih =>
    have hrest := ih (before ++ [first])
    rw [Tracker.reportAll_concat] at hrest
    unfold Tracker.observeAll
    rw [traces_append, traces_observe]
    exact (congrArg _ hrest).trans (Failure.advancesAfter_append before [first] rest).symm

theorem concluded_notMem_observe (error : ParseError) (t : Tracker) (failure : Failure) :
    concluded error ∉ (t.observe failure : List (Event Rule) × Tracker).1 := by
  unfold Tracker.observe
  split <;> simp

theorem concluded_notMem_observeAll (error : ParseError) (t : Tracker) (failures : List Failure) :
    concluded error ∉ (t.observeAll failures : List (Event Rule) × Tracker).1 := by
  induction failures generalizing t with
  | nil => exact List.not_mem_nil
  | cons first rest ih =>
    unfold Tracker.observeAll
    rw [List.mem_append, not_or]
    exact ⟨concluded_notMem_observe error t first, ih _⟩

end Event

namespace Course

variable {start : Nat} {before after : Tracker} {outcome : Outcome Unit}
  {events : List (Event S.Rule)}

/-- What a course traces are its advances, counting from what was reported before it. -/
theorem traces_eq (hforeign : ∀ rule, grammar.foreign rule = [])
    (h : Course grammar input Allowed start before outcome events after) {past : List Failure}
    (hbefore : before = Tracker.empty.reportAll past) :
    Event.traces events = Failure.advancesAfter past (Event.reports events) := by
  induction h generalizing past with
  | stay | take | misplaced | fault => rfl
  | fail start t expected =>
    rw [hbefore, Event.traces_observe, Event.reports_observe]
  | custom start t act =>
    rw [Event.reports_observeAll]
    subst hbefore
    exact Event.traces_observeAll past _
  | goOn hfirst _ ih ih' | goBack hfirst _ ih ih' =>
    -- For the second part, the reports of the first one are past too.
    have hmiddle := hfirst.after_eq
    rw [hbefore, ← Tracker.reportAll_append] at hmiddle
    rw [Event.traces_append, Event.reports_append, Failure.advancesAfter_append, ih hbefore,
      ih' hmiddle]
  | construct rule _ ih =>
    rw [hforeign rule]
    simpa [Event.furthest?, Event.report?] using ih hbefore
  | left probe _ ih | missed probe _ ih | broken probe _ ih =>
    simpa [Event.furthest?, Event.report?] using ih hbefore

theorem traces_eq_advances (hforeign : ∀ rule, grammar.foreign rule = [])
    (h : Course grammar input Allowed start .empty outcome events after) :
    Event.traces events = Failure.advances (Event.reports events) :=
  h.traces_eq hforeign rfl

theorem concluded_notMem (error : ParseError)
    (h : Course grammar input Allowed start before outcome events after) :
    .concluded error ∉ events := by
  induction h with
  | stay | take | misplaced | fault => exact List.not_mem_nil
  | fail start t expected => exact Event.concluded_notMem_observe error t _
  | custom start t act => exact Event.concluded_notMem_observeAll error t _
  | goOn _ _ ih ih' | goBack _ _ ih ih' =>
    rw [List.mem_append, not_or]
    exact ⟨ih, ih'⟩
  | construct rule _ ih => simpa using ih
  | left probe _ ih | missed probe _ ih | broken probe _ ih => simpa using ih

end Course

namespace Parse

/-- Either the events of a parse are those of a course and it rejects nothing, or the error that it
rejects with is for what the tracker holds at the end of a course, and concludes its events. -/
inductive Tells (grammar : Grammar S) (input : Text) (Allowed : Kind) (parse : Parse S α) : Prop
    where
  | silent {outcome : Outcome Unit} {after : Tracker}
      (course : Course grammar input Allowed 0 .empty outcome parse.events after)
      (unrejected : ∀ error, parse.verdict ≠ .rejected error) : Tells grammar input Allowed parse
  | concluded {outcome : Outcome Unit} {events : List (Event S.Rule)} {after : Tracker}
      {error : ParseError}
      (course : Course grammar input Allowed 0 .empty outcome events after)
      (held : after.failure? = some error.failure)
      (events_eq : parse.events = events ++ [.concluded error])
      (rejected : parse.verdict = .rejected error) : Tells grammar input Allowed parse

theorem tells_conclude (hkind : ∀ α act, Allowed α act → reporting α act) {failure : Failure}
    {events : List (Event S.Rule)} {memory : Memory S}
    (h : Course grammar input Allowed 0 .empty (.failed failure) events memory.tracker) :
    (conclude input failure events memory : Parse S α).Tells grammar input Allowed := by
  obtain ⟨furthest, hfurthest, -⟩ := h.exists_isLastFurthest hkind
  unfold conclude
  rw [hfurthest, Option.getD_some]
  cases hat : ParseError.at? input furthest with
  | none => exact .silent h (by simp)
  | some error =>
    rw [← ParseError.failure_of_at? hat] at hfurthest
    exact .concluded h hfurthest rfl rfl

theorem tells_ofRunPartial (hkind : ∀ α act, Allowed α act → reporting α act) {run : Run S α}
    (h : Course grammar input Allowed 0 .empty run.outcome.shape run.events run.memory.tracker) :
    (ofRunPartial input run).Tells grammar input Allowed := by
  unfold ofRunPartial
  cases hout : run.outcome with
  | matched value next => exact .silent h (by simp)
  | failed failure =>
    rw [hout] at h
    exact tells_conclude hkind h
  | faulted fault => exact .silent h (by simp)

theorem tells_ofRun (hkind : ∀ α act, Allowed α act → reporting α act) {run : Run S α}
    (h : Course grammar input Allowed 0 .empty run.outcome.shape run.events run.memory.tracker) :
    (ofRun input run).Tells grammar input Allowed := by
  unfold ofRun
  cases hout : run.outcome with
  | matched value next =>
    dsimp only
    split
    · exact .silent h (by simp)
    · rw [hout] at h
      exact tells_conclude hkind (h.goOn (.fail next run.memory.tracker "EOF"))
  | failed failure =>
    rw [hout] at h
    exact tells_conclude hkind h
  | faulted fault => exact .silent h (by simp)

/-- The log of a parse is the advances among its reports and, if it rejects the input, the error. -/
structure IsLogged (parse : Parse S α) : Prop where
  traces_eq : Event.traces parse.events = Failure.advances (Event.reports parse.events)
  pairwise_traces : (Event.traces parse.events).Pairwise (·.offset ≤ ·.offset)
  trace_lines : ∀ [ToString S.Rule], (Event.log parse.events).filter (Event.isAtLevel "TRACE") =
    (Failure.advances (Event.reports parse.events)).map fun failure =>
      s!"TRACE furthest failure is now {failure.expected} at {failure.offset}"
  unconcluded : (∀ error, parse.verdict ≠ .rejected error) →
    ∀ error, .concluded error ∉ parse.events
  /-- The conclusion is the only one and comes last, after an advance to the same failure. -/
  concluded : ∀ error, parse.verdict = .rejected error →
    ∃ events, parse.events = events ++ [.concluded error] ∧
      (∀ other, .concluded other ∉ events) ∧
      (Event.traces events).getLast? = some error.failure
  line : ∀ error [ToString S.Rule], parse.verdict = .rejected error →
    let rowAndCol := s!"{error.position.row + 1}:{error.position.col + 1}"
    let place := s!"{rowAndCol} (byte offset {error.offset})"
    (Event.log parse.events).getLast? =
      some s!"DEBUG Parse failed at {place}: expected {error.expected}"
  unconcluded_lines : ∀ [ToString S.Rule], (∀ error, parse.verdict ≠ .rejected error) →
    (Event.log parse.events).filter (Event.isAtLevel "DEBUG") = []
  /-- Only the last line of the log is that of a conclusion. -/
  concluded_lines : ∀ error [ToString S.Rule], parse.verdict = .rejected error →
    (Event.log parse.events).filter (Event.isAtLevel "DEBUG") =
      (Event.log parse.events).getLast?.toList

theorem Tells.traces_eq {parse : Parse S α} (hforeign : ∀ rule, grammar.foreign rule = [])
    (h : parse.Tells grammar input Allowed) :
    Event.traces parse.events = Failure.advances (Event.reports parse.events) := by
  cases h with
  | silent course unrejected => exact course.traces_eq_advances hforeign
  | concluded course held events_eq rejected =>
    rw [events_eq]
    simpa [Event.furthest?, Event.report?] using course.traces_eq_advances hforeign

theorem Tells.isLogged {parse : Parse S α} (hforeign : ∀ rule, grammar.foreign rule = [])
    (h : parse.Tells grammar input Allowed) : parse.IsLogged := by
  have htraces := h.traces_eq hforeign
  have hpairwise : (Event.traces parse.events).Pairwise (·.offset ≤ ·.offset) := by
    rw [htraces]
    exact Failure.pairwise_advancesAfter [] _
  have hlines [ToString S.Rule] := (Event.filter_log Event.filter_logLine?_trace
    parse.events).trans (congrArg (List.map _) htraces)
  have hconclusions [ToString S.Rule] :=
    Event.filter_log Event.filter_logLine?_debug parse.events
  cases h with
  | silent course unrejected =>
    exact {
      traces_eq := htraces
      pairwise_traces := hpairwise
      trace_lines := hlines
      unconcluded := fun _ error => course.concluded_notMem error
      concluded := fun error h => absurd h (unrejected error)
      line := fun error _ h => absurd h (unrejected error)
      unconcluded_lines := by
        intro _ _
        rw [hconclusions, Event.filterMap_conclusion?_eq_nil course.concluded_notMem, List.map_nil]
      concluded_lines := fun error _ h => absurd h (unrejected error) }
  | @concluded outcome events after error course held events_eq rejected =>
    have hlast : (Event.traces events).getLast? = some error.failure := by
      rw [course.traces_eq_advances hforeign, Tracker.getLast?_advances, ← course.after_eq, held]
    have hend [ToString S.Rule] : (Event.log parse.events).getLast? =
        Event.logLine? (.concluded error : Event S.Rule) := by
      rw [events_eq, Event.log_append]
      exact List.getLast?_concat
    exact {
      traces_eq := htraces
      pairwise_traces := hpairwise
      trace_lines := hlines
      unconcluded := fun h => absurd rejected (h error)
      concluded := by
        intro other hother
        cases rejected.symm.trans hother
        exact ⟨events, events_eq, fun other => course.concluded_notMem other, hlast⟩
      line := by
        intro other _ hother
        cases rejected.symm.trans hother
        exact hend
      unconcluded_lines := fun h => absurd rejected (h error)
      concluded_lines := by
        intro other _ hother
        rw [hend, hconclusions, events_eq, List.filterMap_append,
          Event.filterMap_conclusion?_eq_nil course.concluded_notMem]
        rfl }

end Parse

namespace Parser

/-- Both entry points log the advances among the reports of the parse, and conclude with the error
just when they reject the input. No failure is made outside the parse when a rule is constructed. -/
theorem parse_isLogged (hg : grammar.Composed reporting)
    (hforeign : ∀ rule, grammar.foreign rule = []) {p : Parser S α} (hp : p.Composed reporting)
    {cells : Cells S} (hcells : cells.Faithful grammar) (input : Text) (fuel : Nat) :
    (∀ parse, p.parseWithin fuel grammar input cells = some parse → parse.IsLogged) ∧
      ∀ parse, p.parsePartialWithin fuel grammar input cells = some parse → parse.IsLogged := by
  constructor
  · intro parse hparse
    obtain ⟨run, hrun, rfl⟩ := Option.map_eq_some_iff.mp hparse
    have hcourse := (charted_runWithin hg fuel hp hrun hcells).2
    exact (Parse.tells_ofRun (fun _ _ h => h) hcourse).isLogged hforeign
  · intro parse hparse
    obtain ⟨run, hrun, rfl⟩ := Option.map_eq_some_iff.mp hparse
    have hcourse := (charted_runWithin hg fuel hp hrun hcells).2
    exact (Parse.tells_ofRunPartial (fun _ _ h => h) hcourse).isLogged hforeign

end Parser

/-- Of three reports the last lies behind the other two and is not logged. -/
theorem Nested.inParentheses_isLogged :
    ∃ parse error, inParentheses.parseWithin 9 Nested.grammar "((é".toList .empty = some parse ∧
      parse.verdict = .rejected error ∧ error.failure = ⟨2, "')'"⟩ ∧
      Event.reports parse.events = [⟨2, "'('"⟩, ⟨2, "')'"⟩, ⟨1, "')'"⟩] ∧
      Event.traces parse.events = [⟨2, "'('"⟩, ⟨2, "')'"⟩] ∧ parse.IsLogged := by
  have hverdict : ((inParentheses.parseWithin 9 Nested.grammar "((é".toList .empty).map fun parse =>
      parse.verdict) = some (.rejected ⟨2, 2, "')'", ⟨0, 2⟩,
        "expected ')' at character 2, got '...é'\n    parsing: '((é'"⟩) := by
    decide +kernel
  have hevents : ((inParentheses.parseWithin 9 Nested.grammar "((é".toList .empty).map fun parse =>
      Event.reports parse.events) = some [⟨2, "'('"⟩, ⟨2, "')'"⟩, ⟨1, "')'"⟩] := by
    decide +kernel
  obtain ⟨parse, hparse, hrejected⟩ := Option.map_eq_some_iff.mp hverdict
  rw [hparse, Option.map_some, Option.some_inj] at hevents
  obtain ⟨hwhole, -⟩ := Parser.parse_isLogged (isPlain_grammar.composed reporting)
    (fun _ => rfl) (isPlain_inParentheses.composed reporting) Cells.faithful_empty "((é".toList 9
  have hlogged := hwhole parse hparse
  refine ⟨parse, _, hparse, hrejected, rfl, hevents, ?_, hlogged⟩
  rw [hlogged.traces_eq, hevents]
  decide

end Descent
