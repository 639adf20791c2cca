import Descent.Proofs.Watched

/-!
# Offsets stay on boundaries

A run that starts at a boundary of the input stays on boundaries, never goes back behind its start
and never past the end. So no text is cut at a wrong place, neither by the parsers nor by the error
or the marks that come of the run.
-/

namespace Descent

variable {S : Signature} {α : Type} {grammar : Grammar S} {input : Text}

/-- A boundary that is not behind `start`. -/
structure Text.Reaches (t : Text) (start stop : Nat) : Prop where
  start_le : start ≤ stop
  le_size : stop ≤ t.size
  isBoundary : t.IsBoundary stop

namespace Text

theorem IsBoundary.reaches_self {t : Text} {n : Nat} (h : t.IsBoundary n) : t.Reaches n n :=
  ⟨Nat.le_refl n, h.le_size, h⟩

theorem Reaches.trans {t : Text} {a b c : Nat} (hab : t.Reaches a b) (hbc : t.Reaches b c) :
    t.Reaches a c :=
  ⟨Nat.le_trans hab.start_le hbc.start_le, hbc.le_size, hbc.isBoundary⟩

theorem reaches_append (a taken rest : Text) :
    (a ++ taken ++ rest).Reaches a.size (a ++ taken).size := by
  exact ⟨by simp, by simp, a ++ taken, rest, rfl, rfl⟩

theorem isSome_slice? {t : Text} {start stop : Nat} (hstart : t.IsBoundary start)
    (h : t.Reaches start stop) : (t.slice? start stop).isSome := by
  obtain ⟨a, rest, rfl, rfl⟩ := hstart
  obtain ⟨a', rest', hsplit, rfl⟩ := h.isBoundary
  have hle := h.start_le
  rcases List.append_eq_append_iff.mp hsplit with ⟨m, rfl, rfl⟩ | ⟨m, rfl, rfl⟩
  · exact Option.isSome_iff_exists.mpr
      ⟨m, slice?_eq_some_iff.mpr ⟨a, rest', by simp, rfl, rfl⟩⟩
  · have hm : m = [] := by
      rw [← size_eq_zero_iff]
      rw [size_append] at hle
      omega
    subst hm
    exact Option.isSome_iff_exists.mpr
      ⟨[], slice?_eq_some_iff.mpr ⟨a', rest, by simp, by simp, by simp⟩⟩

end Text

/-- At a boundary the position can be resolved, so there is an error to be made. -/
theorem ParseError.exists_at? {failure : Failure} (h : input.IsBoundary failure.offset) :
    ∃ error, at? input failure = some error := by
  obtain ⟨a, b, rfl, hsize⟩ := h
  have hmin : min failure.offset (Text.size (a ++ b)) = failure.offset := by
    rw [Text.size_append, ← hsize]
    omega
  have hbefore : Text.before? (a ++ b) failure.offset = some a :=
    Text.before?_eq_some_iff.mpr ⟨List.prefix_append a b, hsize⟩
  obtain ⟨message, -, hat⟩ := exists_at?_eq_map (a ++ b) failure
  rw [hat, Position.resolve?, hmin, hbefore]
  exact ⟨_, rfl⟩

namespace Event

variable {Rule : Type}

/-- Where an event says that a parser was started, stopped or failed. -/
def place? : Event Rule → Option Nat
  | reported failure => some failure.offset
  | entered _ offset => some offset
  | left _ next => some next
  | missed _ failure => some failure.offset
  | furthest _ | constructed _ | concluded _ => none

def places (events : List (Event Rule)) : List Nat :=
  events.filterMap place?

@[simp]
theorem places_nil : places ([] : List (Event Rule)) = [] :=
  rfl

@[simp]
theorem places_cons (event : Event Rule) (events : List (Event Rule)) :
    places (event :: events) = event.place?.toList ++ places events := by
  cases event <;> rfl

@[simp]
theorem places_append (xs ys : List (Event Rule)) : places (xs ++ ys) = places xs ++ places ys :=
  List.filterMap_append

@[simp]
theorem places_map_furthest (failures : List Failure) :
    places (failures.map furthest : List (Event Rule)) = [] := by
  induction failures with
  | nil => rfl
  | cons first rest ih => exact ih

@[simp]
theorem places_observe (t : Tracker) (failure : Failure) :
    places (t.observe failure : List (Event Rule) × Tracker).1 = [failure.offset] := by
  unfold Tracker.observe
  split <;> rfl

theorem mem_places {events : List (Event Rule)} {event : Event Rule} {place : Nat}
    (h : event ∈ events) (hplace : event.place? = some place) : place ∈ places events :=
  List.mem_filterMap.mpr ⟨event, h, hplace⟩

theorem offset_mem_places {events : List (Event Rule)} {failure : Failure}
    (h : failure ∈ reports events) : failure.offset ∈ places events := by
  obtain ⟨event, hevent, hreport⟩ := List.mem_filterMap.mp h
  cases event <;> cases hreport
  exact mem_places hevent rfl

end Event

/-- Where an outcome says that a run stopped or failed. -/
def Outcome.place? : Outcome α → Option Nat
  | matched _ next => some next
  | failed failure => some failure.offset
  | faulted _ => none

/-- All places of an outcome and of events are boundaries from `start` on, and no text was cut
anywhere else. -/
structure StaysInside (input : Text) (start : Nat) (outcome : Outcome Unit)
    (events : List (Event S.Rule)) : Prop where
  stop : ∀ place, outcome.place? = some place → input.Reaches start place
  places : ∀ place ∈ Event.places events, input.Reaches start place
  sound : outcome ≠ .faulted .badOffset

theorem StaysInside.andThen {start next : Nat} {outcome : Outcome Unit}
    {first rest : List (Event S.Rule)} (h : StaysInside input start (.matched () next) first)
    (h' : StaysInside input next outcome rest) :
    StaysInside input start outcome (first ++ rest) where
  stop place hplace := (h.stop next rfl).trans (h'.stop place hplace)
  places := by
    intro place hplace
    rw [Event.places_append] at hplace
    rcases List.mem_append.mp hplace with hplace | hplace
    · exact h.places place hplace
    · exact (h.stop next rfl).trans (h'.places place hplace)
  sound := h'.sound

theorem StaysInside.orElse {start : Nat} {failure : Failure} {outcome : Outcome Unit}
    {first rest : List (Event S.Rule)} (h : StaysInside input start (.failed failure) first)
    (h' : StaysInside input start outcome rest) :
    StaysInside input start outcome (first ++ rest) where
  stop := h'.stop
  places := by
    intro place hplace
    rw [Event.places_append] at hplace
    rcases List.mem_append.mp hplace with hplace | hplace
    · exact h.places place hplace
    · exact h'.places place hplace
  sound := h'.sound

theorem Course.staysInside {start : Nat} {before after : Tracker} {outcome : Outcome Unit}
    {events : List (Event S.Rule)}
    (h : Course grammar input .none start before outcome events after)
    (hstart : input.IsBoundary start) : StaysInside input start outcome events := by
  induction h with
  | stay start t =>
    refine ⟨?_, by simp, by simp⟩
    rintro _ ⟨⟩
    exact hstart.reaches_self
  | take a taken rest t hsplit =>
    refine ⟨?_, by simp, by simp⟩
    rintro _ ⟨⟩
    rw [hsplit]
    exact Text.reaches_append a taken rest
  | misplaced start t houtside => exact absurd hstart houtside
  | fail start t expected =>
    refine ⟨?_, ?_, by simp⟩
    · rintro _ ⟨⟩
      exact hstart.reaches_self
    · simpa using hstart.reaches_self
  | fault start t cause hdeliberate => exact ⟨by simp [Outcome.place?], by simp, by simpa⟩
  | custom start t act hnone => exact hnone.elim
  | goOn _ _ ih ih' =>
    have hfirst := ih hstart
    exact hfirst.andThen (ih' (hfirst.stop _ rfl).isBoundary)
  | goBack _ _ ih ih' => exact (ih hstart).orElse (ih' hstart)
  | construct rule _ ih =>
    have hinner := ih hstart
    exact ⟨hinner.stop, by simpa [Event.place?] using hinner.places, hinner.sound⟩
  | left probe _ ih | missed probe _ ih =>
    have hinner := ih hstart
    have hstop := hinner.stop _ rfl
    refine ⟨hinner.stop, ?_, by simp⟩
    simpa [Event.place?, or_imp, forall_and] using
      ⟨hstart.reaches_self, hinner.places, hstop⟩
  | broken probe _ ih =>
    have hinner := ih hstart
    refine ⟨hinner.stop, ?_, hinner.sound⟩
    simpa [Event.place?] using ⟨hstart.reaches_self, hinner.places⟩

namespace Parse

/-- The error of a plain parse lies on a boundary, and making it cuts no text at a wrong place. -/
theorem Ends.isBoundary {parse : Parse S α} (h : parse.Ends grammar input .none) :
    parse.verdict ≠ .faulted .badOffset ∧
      ∀ error, parse.verdict = .rejected error → input.IsBoundary error.offset := by
  rcases h with ⟨value, haccepted⟩ | ⟨failure, events, memory, hcourse, rfl⟩ |
    ⟨fault, tracker, hfaulted, hcourse⟩
  · simp [haccepted]
  · obtain ⟨furthest, hfurthest, hlast⟩ := hcourse.exists_isLastFurthest fun _ _ h => h.elim
    have hinside := hcourse.staysInside (Text.isBoundary_zero input)
    have hplace := hinside.places _ (Event.offset_mem_places hlast.mem)
    obtain ⟨error, herror⟩ := ParseError.exists_at? hplace.isBoundary
    unfold conclude
    rw [hfurthest, Option.getD_some, herror]
    refine ⟨by simp, ?_⟩
    rintro _ ⟨⟩
    rw [← ParseError.failure_of_at? herror] at hplace
    exact hplace.isBoundary
  · have hsound := (hcourse.staysInside (Text.isBoundary_zero input)).sound
    rw [hfaulted]
    exact ⟨by simpa using hsound, by simp⟩

end Parse

/-- Wraps the value of a run that started at `offset`. -/
def Run.marked (offset : Nat) (run : Run S α) : Run S (Mark α) where
  outcome :=
    match run.outcome with
    | .matched value next => .matched { start := offset, value, stop := next } next
    | .failed failure => .failed failure
    | .faulted fault => .faulted fault
  events := run.events
  memory := run.memory

theorem Run.matched_of_marked {offset next : Nat} {run : Run S α} {mark : Mark α}
    (h : (run.marked offset).outcome = .matched mark next) :
    ∃ value, run.outcome = .matched value next ∧
      { start := offset, value, stop := next } = mark := by
  unfold marked at h
  cases hout : run.outcome with
  | matched value stop =>
    rw [hout] at h
    cases h
    exact ⟨value, rfl, rfl⟩
  | failed failure => simp [hout] at h
  | faulted fault => simp [hout] at h

namespace Parser

theorem runWithin_mark (p : Parser S α) (fuel offset : Nat) (memory : Memory S) :
    p.mark.runWithin grammar input fuel offset memory =
      (p.runWithin grammar input fuel offset memory).map (·.marked offset) := by
  cases fuel with
  | zero => rfl
  | succ fuel =>
    simp only [runWithin, Parser.mark, both, action, Action.currentOffset, Action.map, Action.bind,
      Run.andThen, Run.quiet, Option.bind_some, Option.map_map]
    cases hp : action grammar input (fun _ q => runWithin grammar input fuel q) fuel p offset
      memory with
    | none => rfl
    | some inner =>
      obtain ⟨outcome, events, memory⟩ := inner
      cases outcome <;> simp [Run.marked, Run.map, Run.after, Outcome.map]

theorem staysInside_runWithin (hg : grammar.IsPlain) {p : Parser S α} (hp : p.IsPlain)
    {fuel offset : Nat} {memory : Memory S} {run : Run S α}
    (hrun : p.runWithin grammar input fuel offset memory = some run)
    (hcells : memory.cells.Faithful grammar) (hoffset : input.IsBoundary offset) :
    StaysInside input offset run.outcome.shape run.events :=
  (charted_runWithin hg fuel hp hrun hcells).2.staysInside hoffset

theorem reaches_of_matched {start next : Nat} {outcome : Outcome α} {events : List (Event S.Rule)}
    (h : StaysInside input start outcome.shape events) {value : α}
    (hmatched : outcome = .matched value next) : input.Reaches start next := by
  rw [hmatched] at h
  exact h.stop next rfl

/-- Runs of plain parsers that start on a boundary start, stop, fail and report on boundaries
between there and the end, also in every parser inside that is watched. -/
theorem plain_reaches (hg : grammar.IsPlain) {p : Parser S α} (hp : p.IsPlain)
    {cells : Cells S} (hcells : cells.Faithful grammar) (input : Text) (fuel : Nat) :
    (∀ offset tracker run, input.IsBoundary offset →
      p.runWithin grammar input fuel offset ⟨tracker, cells⟩ = some run →
        run.outcome ≠ .faulted .badOffset ∧
        (∀ value next, run.outcome = .matched value next → input.Reaches offset next) ∧
        (∀ failure, run.outcome = .failed failure → input.Reaches offset failure.offset) ∧
        (∀ failure ∈ Event.reports run.events, input.Reaches offset failure.offset) ∧
        (∀ probe start, .entered probe start ∈ run.events → input.Reaches offset start) ∧
        ∀ leaf node, ∃ watched,
          (p.watched leaf node).runWithin (grammar.watched leaf node) input fuel offset
            ⟨tracker, .empty⟩ = some watched ∧
          watched.outcome = run.outcome ∧
          Event.reports watched.events = Event.reports run.events ∧
          ∀ probe start, .entered probe start ∈ watched.events → input.Reaches offset start) ∧
    (∀ offset tracker run mark next, input.IsBoundary offset →
      p.mark.runWithin grammar input fuel offset ⟨tracker, cells⟩ = some run →
        run.outcome = .matched mark next → (mark.text? input).isSome) ∧
    (∀ parse, p.parseWithin fuel grammar input cells = some parse →
      parse.verdict ≠ .faulted .badOffset ∧
        ∀ error, parse.verdict = .rejected error → input.IsBoundary error.offset) ∧
    ∀ parse, p.parsePartialWithin fuel grammar input cells = some parse →
      parse.verdict ≠ .faulted .badOffset ∧
        ∀ error, parse.verdict = .rejected error → input.IsBoundary error.offset := by
  refine ⟨?_, ?_, fun parse hparse => (parseWithin_ends hg hp hcells hparse).isBoundary,
    fun parse hparse => (parsePartialWithin_ends hg hp hcells hparse).isBoundary⟩
  · intro offset tracker run hoffset hrun
    have hinside := staysInside_runWithin hg hp hrun hcells hoffset
    refine ⟨?_, fun value next => reaches_of_matched hinside, ?_, ?_, ?_, ?_⟩
    · intro hfaulted
      exact hinside.sound (by rw [hfaulted]; rfl)
    · intro failure hfailed
      exact hinside.stop _ (by rw [hfailed]; rfl)
    · intro failure hreported
      exact hinside.places _ (Event.offset_mem_places hreported)
    · intro probe start hentered
      exact hinside.places _ (Event.mem_places hentered rfl)
    · intro leaf node
      obtain ⟨watched, hwatched, hout, hreports, -⟩ :=
        exists_watched_run leaf node hg hp hcells hrun
      have hinside' := staysInside_runWithin (hg.watched leaf node) (hp.watched leaf node)
        hwatched Cells.faithful_empty hoffset
      refine ⟨watched, hwatched, hout, hreports, ?_⟩
      intro probe start hentered
      exact hinside'.places _ (Event.mem_places hentered rfl)
  · intro offset tracker run mark next hoffset hrun hmatched
    rw [runWithin_mark] at hrun
    obtain ⟨inner, hinner, rfl⟩ := Option.map_eq_some_iff.mp hrun
    have hinside := staysInside_runWithin hg hp hinner hcells hoffset
    obtain ⟨value, hvalue, rfl⟩ := Run.matched_of_marked hmatched
    exact Text.isSome_slice? hoffset (reaches_of_matched hinside hvalue)

end Parser

theorem Nested.nest_reaches :
    ∃ run, nest.runWithin Nested.grammar "é()".toList 9 2 ⟨.empty, .empty⟩ = some run ∧
      run.outcome = .matched 1 4 ∧ Text.Reaches "é()".toList 2 4 ∧
      ∀ failure ∈ Event.reports run.events, Text.Reaches "é()".toList 2 failure.offset := by
  have houtcome : ((nest.runWithin Nested.grammar "é()".toList 9 2 ⟨.empty, .empty⟩).map fun run =>
      run.outcome) = some (.matched 1 4) := by
    decide +kernel
  have hboundary : Text.IsBoundary "é()".toList 2 := ⟨['é'], ['(', ')'], rfl, by decide⟩
  obtain ⟨run, hrun, hmatched⟩ := Option.map_eq_some_iff.mp houtcome
  obtain ⟨hruns, -⟩ := Parser.plain_reaches isPlain_grammar isPlain_nest
    Cells.faithful_empty "é()".toList 9
  obtain ⟨-, hstop, -, hreports, -⟩ := hruns 2 .empty run hboundary hrun
  exact ⟨run, hrun, hmatched, hstop 1 4 hmatched, hreports⟩

end Descent
