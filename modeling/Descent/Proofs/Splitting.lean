import Descent.Proofs.Repetition

/-!
# Repetitions split

A repetition can be cut in two. In the rounds that have to match the cut is not seen at all. Later
it may repeat the round that ended the first part; that round fails again in the same way and
reports the same failures, of which the tracker keeps nothing new.
-/

namespace Descent

variable {S : Signature} {α : Type}

namespace Action

variable {action : Action S α} {last : Action S (List α)}

theorem required_add (action : Action S α) (m n : Nat) :
    action.required (m + n) = (action.required m).append (action.required n) := by
  induction m with
  | zero =>
    rw [Nat.zero_add]
    exact (yield_append (action.required n)).symm
  | succ m ih =>
    rw [Nat.succ_add]
    show (action.bind fun value => (action.required (m + n)).map (value :: ·)) =
      (action.bind fun value => (action.required m).map (value :: ·)).append _
    rw [ih, bind_append]
    congr 1
    funext value
    exact (map_cons_append value _ _).symm

theorem optional_add (action : Action S α) (last : Action S (List α)) (m n : Nat) :
    action.optional last (m + n) = action.optional (action.optional last n) m := by
  induction m with
  | zero =>
    rw [Nat.zero_add]
    rfl
  | succ m ih =>
    rw [Nat.succ_add]
    funext offset memory
    unfold Action.optional
    rw [ih]

theorem times_exactly (action : Action S α) (count fuel : Nat) :
    action.times (.exactly count) fuel = action.required count := by
  have hnone : action.surplus (.exactly count) fuel = action.required 0 := by
    show action.optional (yield []) (count - count) = yield []
    rw [Nat.sub_self]
    rfl
  rw [times_eq, hnone]
  exact (required_add action count 0).symm

theorem surplus_dropped (action : Action S α) {bounds : Bounds} {count : Nat}
    (h : count ≤ bounds.least) (fuel : Nat) :
    action.surplus (bounds.dropped count) fuel = action.surplus bounds fuel := by
  obtain ⟨least, most, ordered⟩ := bounds
  cases most with
  | none => rfl
  | some most =>
    show action.optional (yield []) (most - count - (least - count)) = _
    rw [Nat.sub_sub_sub_cancel_right h]
    rfl

theorem times_dropped (action : Action S α) {bounds : Bounds} {count : Nat}
    (h : count ≤ bounds.least) (fuel : Nat) :
    action.times bounds fuel = (action.times (.exactly count) fuel).append
      (action.times (bounds.dropped count) fuel) := by
  have hleast : bounds.least = count + (bounds.dropped count).least :=
    (Nat.add_sub_cancel' h).symm
  rw [times_exactly, times_eq, times_eq, surplus_dropped action h, hleast, required_add,
    append_assoc]

end Action

/-- The same outcome and tracker. After the events of `whole` there may be those of one more round,
which fails where `whole` has ended. -/
structure Run.Rejoined (round : Action S α) (split whole : Run S (List α)) : Prop where
  outcome : split.outcome = whole.outcome
  tracker : split.memory.tracker = whole.memory.tracker
  events : split.events = whole.events ∨ ∃ values next again failure,
    whole.outcome = .matched values next ∧ round next whole.memory = some again ∧
      again.outcome = .failed failure ∧ split.events = whole.events ++ again.events

theorem rel_mono {β β' : Type*} {R R' : β → β' → Prop} (h : ∀ {b b'}, R b b' → R' b b')
    {x : Option β} {y : Option β'} (hrel : Option.Rel R x y) : Option.Rel R' x y := by
  cases hrel with
  | none => exact .none
  | some hsome => exact .some (h hsome)

theorem rel_map {β β' γ γ' : Type*} {R : β → β' → Prop} {R' : γ → γ' → Prop} {f : β → γ}
    {g : β' → γ'} (h : ∀ {b b'}, R b b' → R' (f b) (g b')) {x : Option β} {y : Option β'}
    (hrel : Option.Rel R x y) : Option.Rel R' (x.map f) (y.map g) := by
  cases hrel with
  | none => exact .none
  | some hsome => exact .some (h hsome)

namespace Run.Rejoined

variable {round : Action S α} {split whole : Run S (List α)}

theorem refl (run : Run S (List α)) : run.Rejoined round run :=
  ⟨rfl, rfl, .inl rfl⟩

theorem map (h : split.Rejoined round whole) (f : List α → List α) :
    (split.map f).Rejoined round (whole.map f) := by
  refine ⟨congrArg (Outcome.map f) h.outcome, h.tracker, ?_⟩
  rcases h.events with hsame | ⟨values, next, again, failure, hwhole, hagain, hfailed, hevents⟩
  · exact .inl hsame
  · refine .inr ⟨f values, next, again, failure, ?_, hagain, hfailed, hevents⟩
    exact congrArg (Outcome.map f) hwhole

theorem after (h : split.Rejoined round whole) (events : List (Event S.Rule)) :
    (split.after events).Rejoined round (whole.after events) := by
  refine ⟨h.outcome, h.tracker, ?_⟩
  rcases h.events with hsame | ⟨values, next, again, failure, hwhole, hagain, hfailed, hevents⟩
  · exact .inl (congrArg (events ++ ·) hsame)
  · refine .inr ⟨values, next, again, failure, hwhole, hagain, hfailed, ?_⟩
    exact (congrArg (events ++ ·) hevents).trans (List.append_assoc _ _ _).symm

end Run.Rejoined

namespace Action

/-- From faithful cells both actions are unfinished, or have runs that are the same but for one
more round. -/
def Rejoins (grammar : Grammar S) (split : Action S (List α)) (round : Action S α)
    (whole : Action S (List α)) : Prop :=
  ∀ ⦃offset : Nat⦄ ⦃memory : Memory S⦄, memory.cells.Faithful grammar →
    Option.Rel (Run.Rejoined round) (split offset memory) (whole offset memory)

def Keeps (grammar : Grammar S) (action : Action S α) : Prop :=
  ∀ ⦃offset : Nat⦄ ⦃memory : Memory S⦄ ⦃run : Run S α⦄, memory.cells.Faithful grammar →
    action offset memory = some run → run.memory.cells.Faithful grammar

/-- What has been run ends in the same way again, and the tracker keeps nothing new of it. -/
def Replays (grammar : Grammar S) (action : Action S α) : Prop :=
  ∀ ⦃offset : Nat⦄ ⦃memory : Memory S⦄ ⦃run : Run S α⦄, memory.cells.Faithful grammar →
    action offset memory = some run →
      ∃ again, action offset run.memory = some again ∧ again.outcome = run.outcome ∧
        again.memory.tracker = run.memory.tracker

section Rejoining

variable {grammar : Grammar S} {action : Action S α} {split whole : Action S (List α)}

theorem Keeps.required (ha : action.Keeps grammar) (count : Nat) :
    (action.required count).Keeps grammar := by
  have hanswers : action.Answers grammar (fun _ _ => True) fun _ => True :=
    fun _ _ _ hcells hrun => ⟨ha hcells hrun, trivial, trivial⟩
  intro offset memory run hcells hrun
  exact (hanswers.required count hcells hrun).1

theorem Rejoins.refl (action : Action S α) (both : Action S (List α)) :
    both.Rejoins grammar action both := by
  intro offset memory hcells
  cases both offset memory with
  | none => exact .none
  | some run => exact .some (.refl run)

theorem Rejoins.map (h : split.Rejoins grammar action whole) (f : List α → List α) :
    (split.map f).Rejoins grammar action (whole.map f) := by
  intro offset memory hcells
  exact rel_map (fun hrun => hrun.map f) (h hcells)

theorem Rejoins.append {first : Action S (List α)} (hfirst : first.Keeps grammar)
    (h : split.Rejoins grammar action whole) :
    (first.append split).Rejoins grammar action (first.append whole) := by
  intro offset memory hcells
  unfold Action.append Action.bind
  cases hrun : first offset memory with
  | none => exact .none
  | some run =>
    rw [Option.bind_some, Option.bind_some]
    unfold Run.andThen
    cases run.outcome with
    | matched values middle =>
      exact rel_map (fun hrun => hrun.after run.events) (h.map (values ++ ·) (hfirst hcells hrun))
    | failed failure => exact .some (.refl _)
    | faulted fault => exact .some (.refl _)

/-- Where a round has failed, a further repetition ends at once. -/
theorem Replays.optional (ha : action.Replays grammar) {offset : Nat} {memory : Memory S}
    {run : Run S α} {failure : Failure} (hcells : memory.cells.Faithful grammar)
    (hrun : action offset memory = some run) (hfailed : run.outcome = .failed failure)
    (count : Nat) :
    Option.Rel (Run.Rejoined action) (action.optional (yield []) count offset run.memory)
      (yield [] offset run.memory) := by
  cases count with
  | zero => exact .some (.refl _)
  | succ count =>
    obtain ⟨again, hagain, hout, htracker⟩ := ha hcells hrun
    have hfailed' : again.outcome = .failed failure := hout.trans hfailed
    rw [optional_of_failed hagain hfailed']
    exact .some ⟨rfl, htracker, .inr ⟨[], offset, again, failure, rfl, hagain, hfailed', rfl⟩⟩

/-- Optional rounds and then some more are that many optional rounds. -/
theorem Replays.optional_append {last last' : Action S (List α)} {more : Nat}
    (hkeeps : action.Keeps grammar) (ha : action.Replays grammar)
    (hlast : (last.append (action.optional (yield []) more)).Rejoins grammar action last')
    (count : Nat) :
    ((action.optional last count).append (action.optional (yield []) more)).Rejoins grammar action
      (action.optional last' count) := by
  -- Both sides make the same rounds until one fails. There the left one goes on with its second
  -- part, which starts where the failed round did.
  induction count with
  | zero => exact hlast
  | succ count ih =>
    intro offset memory hcells
    cases hrun : action offset memory with
    | none =>
      unfold Action.append Action.bind
      rw [optional_of_none hrun, optional_of_none hrun]
      exact .none
    | some run =>
      cases hout : run.outcome with
      | matched value middle =>
        have hrest := Rejoins.map ih (value :: ·)
        rw [← map_cons_append] at hrest
        unfold Action.append Action.bind at hrest ⊢
        rw [optional_of_matched hrun hout, optional_of_matched hrun hout, Run.bind_after]
        exact rel_map (fun hrun => hrun.after run.events) (hrest (hkeeps hcells hrun))
      | failed failure =>
        have hrest := rel_map (fun hrun => (hrun.map ([] ++ ·)).after run.events)
          (ha.optional hcells hrun hout more)
        have hwhole : ((yield [] offset run.memory).map fun rest : Run S (List α) =>
            (rest.map ([] ++ ·)).after run.events) =
              some ⟨.matched [] offset, run.events, run.memory⟩ := by
          simp [yield, Run.quiet, Run.map, Run.after, Outcome.map]
        rw [hwhole] at hrest
        unfold Action.append Action.bind
        rw [optional_of_failed hrun hout, optional_of_failed hrun hout, Option.bind_some]
        show Option.Rel _ (((action.optional (yield []) more offset run.memory).map
          (Run.map ([] ++ ·))).map (Run.after run.events)) _
        rw [Option.map_map]
        exact hrest
      | faulted fault =>
        unfold Action.append Action.bind
        rw [optional_of_faulted hrun hout, optional_of_faulted hrun hout]
        exact .some (.refl _)

theorem Replays.surplus (hkeeps : action.Keeps grammar) (ha : action.Replays grammar)
    (bounds : Bounds) (more fuel : Nat) :
    ((action.surplus bounds fuel).append (action.optional (yield []) more)).Rejoins grammar action
      (action.surplus (bounds.extended more) fuel) := by
  obtain ⟨least, most, ordered⟩ := bounds
  cases most with
  | none => exact ha.optional_append hkeeps (.refl action unfinished) fuel
  | some most =>
    have hle : least ≤ most := ordered most rfl
    have hcount : most + more - least = (most - least) + more := by omega
    show ((action.optional (yield []) (most - least)).append _).Rejoins grammar action
      (action.optional (yield []) (most + more - least))
    rw [hcount, optional_add]
    refine ha.optional_append hkeeps ?_ (most - least)
    rw [yield_append]
    exact .refl action _

theorem Replays.times (hkeeps : action.Keeps grammar) (ha : action.Replays grammar)
    (bounds : Bounds) (more fuel : Nat) :
    ((action.times bounds fuel).append (action.times (.atMost more) fuel)).Rejoins grammar action
      (action.times (bounds.extended more) fuel) := by
  rw [times_atMost, times_eq, times_eq, append_assoc]
  exact (ha.surplus hkeeps bounds more fuel).append (hkeeps.required bounds.least)

end Rejoining

section Unbounded

variable {action : Action S α}

theorem optional_unfinished_ne_failed {count offset : Nat} {memory : Memory S}
    {run : Run S (List α)} (hrun : action.optional unfinished count offset memory = some run)
    (failure : Failure) : run.outcome ≠ .failed failure := by
  induction count generalizing offset memory run with
  | zero => cases hrun
  | succ count ih =>
    obtain ⟨first, -, hends⟩ := optional_succ_eq_some_iff.mp hrun
    rcases hends with ⟨value, middle, rest, -, hmore, rfl⟩ | ⟨_, -, rfl⟩ | ⟨_, -, rfl⟩
    · intro hfailed
      rw [← Outcome.shape_eq_failed_iff, Run.outcome_after, Run.map, Outcome.shape_map,
        Outcome.shape_eq_failed_iff] at hfailed
      exact ih hmore hfailed
    · simp
    · simp

/-- Optional rounds without end are a first match and more of them, or else nothing. -/
theorem optional_unfinished_succ (action : Action S α) (count : Nat) :
    action.optional unfinished (count + 1) =
      (action.bind fun value => (action.optional unfinished count).map (value :: ·)).orElse
        (yield []) := by
  funext offset memory
  unfold Action.orElse Action.bind
  cases hrun : action offset memory with
  | none =>
    rw [optional_of_none hrun]
    rfl
  | some run =>
    rw [Option.bind_some]
    unfold Run.andThen
    cases hout : run.outcome with
    | matched value middle =>
      dsimp only
      rw [← optional_of_matched hrun hout]
      cases hall : action.optional unfinished (count + 1) offset memory with
      | none => rfl
      | some all =>
        -- The second alternative is out of reach: after a match the rounds cannot fail.
        have hends := optional_unfinished_ne_failed hall
        exact (Run.orElse_eq_some_iff.mpr (.inr ⟨hends, rfl⟩)).symm
    | failed failure =>
      rw [optional_of_failed hrun hout]
      simp [Run.orElse, yield, Run.quiet, Run.after]
    | faulted fault =>
      rw [optional_of_faulted hrun hout]
      rfl

end Unbounded

end Action

namespace Parser

variable {grammar : Grammar S} {input : Text} {p : Parser S α}

/-- Two lists, one after the other, put together. -/
def appended (p q : Parser S (List α)) : Parser S (List α) :=
  (p.both q).map fun (values, more) => values ++ more

/-- A match in front of the others, or no match at all. -/
def firstAndRest (p : Parser S α) (rest : Parser S (List α)) : Parser S (List α) :=
  ((p.both rest).map fun (first, others) => first :: others).orElse (.always [])

theorem runWithin_appended (p q : Parser S (List α)) (fuel : Nat) :
    (p.appended q).runWithin grammar input fuel =
      (p.runWithin grammar input fuel).append (q.runWithin grammar input fuel) := by
  cases fuel with
  | zero => rfl
  | succ fuel =>
    let first := p.runWithin grammar input (fuel + 1)
    let second := q.runWithin grammar input (fuel + 1)
    show (first.bind fun values => second.map (Prod.mk values)).map _ = first.append second
    rw [Action.map_bind]
    unfold Action.append
    congr 1
    funext values
    rw [Action.map_map]

theorem keeps_runWithin (p : Parser S α) (fuel : Nat) :
    (p.runWithin grammar input fuel).Keeps grammar :=
  fun _ _ _ hcells hrun => (faithful_and_tracker_of_run hcells hrun).1

theorem IsPlain.replays (hg : grammar.IsPlain) (hp : p.IsPlain) (fuel : Nat) :
    (p.runWithin grammar input fuel).Replays grammar := by
  intro offset memory run hcells hrun
  obtain ⟨hleft, htracker⟩ := faithful_and_tracker_of_run hcells hrun
  obtain ⟨again, hagain, hruns⟩ :=
    simulates_runWithin hg fuel hp rfl ⟨trivial, hcells, hleft⟩ hrun
  have htracker' := (faithful_and_tracker_of_run hleft hagain).2
  have hreports : Event.reports run.events = Event.reports again.events := hruns.events
  rw [← hreports, htracker, Tracker.reportAll_again] at htracker'
  exact ⟨again, hagain, (hruns.outcomes.eq rfl).symm, htracker'.trans htracker.symm⟩

theorem runWithin_times_dropped (p : Parser S α) {bounds : Bounds} {count : Nat}
    (h : count ≤ bounds.least) (fuel : Nat) :
    (p.times bounds).runWithin grammar input fuel =
      ((p.times (.exactly count)).appended (p.times (bounds.dropped count))).runWithin grammar input
        fuel := by
  rw [runWithin_appended]
  cases fuel with
  | zero => rfl
  | succ fuel => exact Action.times_dropped _ h fuel

theorem rejoins_times_extended (hg : grammar.IsPlain) (hp : p.IsPlain) (bounds : Bounds)
    (more fuel : Nat) :
    (((p.times bounds).appended (p.times (.atMost more))).runWithin grammar input fuel).Rejoins
      grammar (p.runWithin grammar input fuel)
      ((p.times (bounds.extended more)).runWithin grammar input fuel) := by
  rw [runWithin_appended]
  cases fuel with
  | zero => exact .refl _ Action.unfinished
  | succ fuel =>
    exact (hp.replays hg (fuel + 1)).times (keeps_runWithin p (fuel + 1)) bounds more fuel

theorem runWithin_many (p : Parser S α) (fuel : Nat) :
    p.many.runWithin grammar input (fuel + 1) =
      (p.runWithin grammar input (fuel + 1)).optional .unfinished fuel :=
  Action.times_atLeast_zero _ fuel

theorem runWithin_firstAndRest_many (p : Parser S α) (fuel : Nat) :
    (p.firstAndRest p.many).runWithin grammar input (fuel + 1) =
      (p.runWithin grammar input (fuel + 1)).optional .unfinished (fuel + 1) := by
  let action := p.runWithin grammar input (fuel + 1)
  let rest := p.many.runWithin grammar input (fuel + 1)
  show ((action.bind fun value => rest.map (Prod.mk value)).map _).orElse (.yield []) = _
  rw [Action.optional_unfinished_succ, ← runWithin_many, Action.map_bind]
  congr 2
  funext value
  rw [Action.map_map]

theorem runWithin_many_iff (p : Parser S α) {offset : Nat} {memory : Memory S}
    {run : Run S (List α)} :
    (∃ fuel, p.many.runWithin grammar input fuel offset memory = some run) ↔
      ∃ fuel, (p.firstAndRest p.many).runWithin grammar input fuel offset memory = some run := by
  -- With the same fuel the right side may make one round more, so each way takes more fuel.
  constructor
  · rintro ⟨fuel, hrun⟩
    cases fuel with
    | zero => cases hrun
    | succ fuel =>
      have hmore := (Coupling.identity_simulates_self
        (p.runWithin grammar input (fuel + 1))).optional_unfinished (Nat.le_succ fuel)
      rw [runWithin_many] at hrun
      refine ⟨fuel + 1, ?_⟩
      rw [runWithin_firstAndRest_many]
      exact Coupling.identity_simulates_iff.mp hmore offset memory run hrun
  · rintro ⟨fuel, hrun⟩
    cases fuel with
    | zero => cases hrun
    | succ fuel =>
      have hround : (Coupling.identity S).Simulates (p.runWithin grammar input (fuel + 1))
          (p.runWithin grammar input (fuel + 2)) :=
        identity_simulates_runWithin (Nat.le_succ (fuel + 1)) p
      have hmore := hround.optional_unfinished (Nat.le_refl (fuel + 1))
      rw [runWithin_firstAndRest_many] at hrun
      refine ⟨fuel + 2, ?_⟩
      rw [runWithin_many]
      exact Coupling.identity_simulates_iff.mp hmore offset memory run hrun

/-- In the rounds that have to match, a repetition can be cut in two without a trace. If some more
rounds are allowed afterwards, the outcome and the tracker are those of a repetition with room for
them, but for the events of one more round at most. And many matches are a first one and many more,
or else none. -/
theorem times_split (hg : grammar.IsPlain) (hp : p.IsPlain) (input : Text) (offset : Nat)
    {memory : Memory S} (hcells : memory.cells.Faithful grammar) :
    (∀ (bounds : Bounds) (count : Nat), count ≤ bounds.least → ∀ fuel,
      (p.times bounds).runWithin grammar input fuel offset memory =
        ((p.times (.exactly count)).appended (p.times (bounds.dropped count))).runWithin grammar
          input fuel offset memory) ∧
    (∀ (bounds : Bounds) (more fuel : Nat),
      Option.Rel (Run.Rejoined (p.runWithin grammar input fuel))
        (((p.times bounds).appended (p.times (.atMost more))).runWithin grammar input fuel offset
          memory)
        ((p.times (bounds.extended more)).runWithin grammar input fuel offset memory)) ∧
    ∀ run, (∃ fuel, p.many.runWithin grammar input fuel offset memory = some run) ↔
      ∃ fuel, (p.firstAndRest p.many).runWithin grammar input fuel offset memory = some run := by
  refine ⟨?_, ?_, fun run => runWithin_many_iff p⟩
  · intro bounds count hcount fuel
    rw [runWithin_times_dropped p hcount]
  · intro bounds more fuel
    exact rejoins_times_extended hg hp bounds more fuel hcells

end Parser

/-- Two nests and an opening bracket. The third round reads the bracket before it fails; with a cut
behind it, it is made twice and fails twice in this way. -/
theorem Nested.inParentheses_split :
    (∃ run, (nests 2).runWithin Nested.grammar "é()(())(".toList 9 2 (.fresh .empty) = some run ∧
      ((inParentheses.times (.exactly 1)).appended (inParentheses.times (.atMost 2))).runWithin
        Nested.grammar "é()(())(".toList 9 2 (.fresh .empty) = some run) ∧
    (∃ split whole, ((nests 2).appended (inParentheses.times (.atMost 2))).runWithin Nested.grammar
        "é()(())(".toList 9 2 (.fresh .empty) = some split ∧
      (nests 4).runWithin Nested.grammar "é()(())(".toList 9 2 (.fresh .empty) = some whole ∧
      split.outcome = .matched [1, 2] 8 ∧ whole.outcome = .matched [1, 2] 8 ∧
      split.memory.tracker = whole.memory.tracker ∧
      Event.reports split.events = Event.reports whole.events ++ [⟨9, "'('"⟩, ⟨9, "')'"⟩]) ∧
    ∃ fuel run, (inParentheses.firstAndRest inParentheses.many).runWithin Nested.grammar
      "é()(())(".toList fuel 2 (.fresh .empty) = some run ∧ run.outcome = .matched [1, 2] 8 := by
  have hshort : ((nests 2).runWithin Nested.grammar "é()(())(".toList 9 2
      (.fresh .empty)).isSome := by
    decide +kernel
  have hwhole : ((nests 4).runWithin Nested.grammar "é()(())(".toList 9 2 (.fresh .empty)).map
      (fun run => (run.outcome, Event.reports run.events)) =
        some (.matched [1, 2] 8, [⟨3, "'('"⟩, ⟨6, "'('"⟩, ⟨9, "'('"⟩, ⟨9, "')'"⟩]) := by
    decide +kernel
  have hsplit : (((nests 2).appended (inParentheses.times (.atMost 2))).runWithin Nested.grammar
      "é()(())(".toList 9 2 (.fresh .empty)).map (fun run => Event.reports run.events) =
        some [⟨3, "'('"⟩, ⟨6, "'('"⟩, ⟨9, "'('"⟩, ⟨9, "')'"⟩, ⟨9, "'('"⟩, ⟨9, "')'"⟩] := by
    decide +kernel
  have hmany : (inParentheses.many.runWithin Nested.grammar "é()(())(".toList 9 2
      (.fresh .empty)).map (·.outcome) = some (.matched [1, 2] 8) := by
    decide +kernel
  have hcells : (Memory.fresh .empty : Memory Nested).cells.Faithful Nested.grammar :=
    Cells.faithful_empty
  obtain ⟨hdropped, hextended, hrest⟩ := Parser.times_split isPlain_grammar isPlain_inParentheses
    "é()(())(".toList 2 hcells
  obtain ⟨run, hrun⟩ := Option.isSome_iff_exists.mp hshort
  obtain ⟨whole, hrunWhole, hends⟩ := Option.map_eq_some_iff.mp hwhole
  obtain ⟨split, hrunSplit, hreports⟩ := Option.map_eq_some_iff.mp hsplit
  obtain ⟨all, hrunAll, hall⟩ := Option.map_eq_some_iff.mp hmany
  obtain ⟨hout, hreports'⟩ := Prod.mk.inj hends
  have hcut := hdropped ((Bounds.exactly 1).extended 2) 1 (Nat.le_refl 1) 9
  have hrejoined := hextended ((Bounds.exactly 1).extended 2) 2 9
  have hbounds : ((Bounds.exactly 1).extended 2).extended 2 = (Bounds.exactly 1).extended 4 := rfl
  rw [hbounds, hrunSplit, hrunWhole] at hrejoined
  refine ⟨⟨run, hrun, hcut.symm.trans hrun⟩, ⟨split, whole, hrunSplit, hrunWhole, ?_⟩, ?_⟩
  · cases hrejoined with
    | some hsame =>
      rw [hreports, hreports']
      exact ⟨hsame.outcome.trans hout, hout, hsame.tracker, rfl⟩
  · obtain ⟨fuel, hfuel⟩ := (hrest all).mp ⟨9, hrunAll⟩
    exact ⟨fuel, all, hfuel, hall⟩

end Descent
