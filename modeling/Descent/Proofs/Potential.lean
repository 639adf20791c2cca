import Descent.Proofs.Matching
import Descent.Proofs.Splitting

/-!
# What rounds may cost

Some events of a run are counted. If every round pays for its own out of a potential of its offset,
and a match leaves the potential of the offset where it ends, then a whole repetition costs no more
than the potential of its start. What is counted here are the matches and the failures of a probed
round, and only the probe itself can record them if the parser inside has no probe of that name.
-/

namespace Descent

variable {S : Signature} {α β : Type}

namespace Action

variable {grammar : Grammar S} {input : Text} {counted : Event S.Rule → Bool}
  {potential : Nat → Nat} {action : Action S α}

/-- No run from a boundary shows more of what is counted than the potential of its offset. -/
def Affords (grammar : Grammar S) (input : Text) (counted : Event S.Rule → Bool)
    (potential : Nat → Nat) (action : Action S α) : Prop :=
  ∀ ⦃offset : Nat⦄ ⦃memory : Memory S⦄ ⦃run : Run S α⦄, input.IsBoundary offset →
    memory.cells.Faithful grammar → action offset memory = some run →
      run.events.countP counted ≤ potential offset

/-- What a match shows is paid for by the loss of potential between its ends. -/
structure Pays (grammar : Grammar S) (input : Text) (counted : Event S.Rule → Bool)
    (potential : Nat → Nat) (action : Action S α) : Prop where
  affords : action.Affords grammar input counted potential
  keeps : action.Keeps grammar
  leaves : ∀ ⦃offset : Nat⦄ ⦃memory : Memory S⦄ ⦃run : Run S α⦄ ⦃value : α⦄ ⦃next : Nat⦄,
    input.IsBoundary offset → memory.cells.Faithful grammar → action offset memory = some run →
      run.outcome = .matched value next →
        input.IsBoundary next ∧ run.events.countP counted + potential next ≤ potential offset

theorem Affords.map (f : α → β) (ha : action.Affords grammar input counted potential) :
    (action.map f).Affords grammar input counted potential := by
  intro offset memory result hoffset hcells hresult
  obtain ⟨run, hrun, rfl⟩ := Option.map_eq_some_iff.mp hresult
  exact ha hoffset hcells hrun

theorem affords_unfinished :
    (unfinished : Action S α).Affords grammar input counted potential := by
  rintro offset memory run - - ⟨⟩

namespace Pays

/-- What a match costs is paid, so only the other ends of a run remain to be looked at. -/
theorem of_outcomes (hkeeps : action.Keeps grammar)
    (hleaves : ∀ ⦃offset : Nat⦄ ⦃memory : Memory S⦄ ⦃run : Run S α⦄ ⦃value : α⦄ ⦃next : Nat⦄,
      input.IsBoundary offset → memory.cells.Faithful grammar → action offset memory = some run →
        run.outcome = .matched value next →
          input.IsBoundary next ∧ run.events.countP counted + potential next ≤ potential offset)
    (hends : ∀ ⦃offset : Nat⦄ ⦃memory : Memory S⦄ ⦃run : Run S α⦄, input.IsBoundary offset →
      memory.cells.Faithful grammar → action offset memory = some run →
        run.outcome.isMatched = false → run.events.countP counted ≤ potential offset) :
    action.Pays grammar input counted potential := by
  refine ⟨?_, hkeeps, hleaves⟩
  intro offset memory run hoffset hcells hrun
  cases hout : run.outcome with
  | matched value next =>
    exact Nat.le_of_add_right_le (hleaves hoffset hcells hrun hout).2
  | failed | faulted => exact hends hoffset hcells hrun (by rw [hout]; rfl)

theorem yield (value : α) :
    (Action.yield value : Action S α).Pays grammar input counted potential where
  affords := by
    rintro offset memory run - - ⟨⟩
    exact Nat.zero_le _
  keeps := by
    rintro offset memory run hcells ⟨⟩
    exact hcells
  leaves := by
    rintro offset memory run _ _ hoffset - ⟨⟩ ⟨⟩
    exact ⟨hoffset, Nat.le_of_eq (Nat.zero_add _)⟩

theorem bind_affords {next : α → Action S β} (ha : action.Pays grammar input counted potential)
    (hn : ∀ value, (next value).Affords grammar input counted potential) :
    (action.bind next).Affords grammar input counted potential := by
  intro offset memory result hoffset hcells hresult
  obtain ⟨run, hrun, hrest⟩ := Option.bind_eq_some_iff.mp hresult
  rcases Run.andThen_eq_some_iff.mp hrest with
    ⟨value, middle, rest, hmatched, hmore, rfl⟩ | ⟨failure, -, rfl⟩ | ⟨fault, -, rfl⟩
  · obtain ⟨hmiddle, hpaid⟩ := ha.leaves hoffset hcells hrun hmatched
    have hothers := hn value hmiddle (ha.keeps hcells hrun) hmore
    show (run.events ++ rest.events).countP counted ≤ potential offset
    rw [List.countP_append]
    omega
  · exact ha.affords hoffset hcells hrun
  · exact ha.affords hoffset hcells hrun

theorem required (ha : action.Pays grammar input counted potential) (count : Nat) :
    (action.required count).Pays grammar input counted potential := by
  induction count with
  | zero => exact .yield []
  | succ count ih =>
    refine ⟨ha.bind_affords fun value => ih.affords.map (value :: ·), ha.keeps.required _, ?_⟩
    intro offset memory result values stop hoffset hcells hresult hvalues
    obtain ⟨run, hrun, hrest⟩ := Option.bind_eq_some_iff.mp hresult
    rcases Run.andThen_eq_some_iff.mp hrest with
      ⟨value, middle, rest, hmatched, hmore, rfl⟩ | ⟨failure, -, rfl⟩ | ⟨fault, -, rfl⟩
    · obtain ⟨hmiddle, hpaid⟩ := ha.leaves hoffset hcells hrun hmatched
      obtain ⟨others, hothers, rfl⟩ := Option.map_eq_some_iff.mp hmore
      obtain ⟨_, hout, -⟩ := Outcome.map_eq_matched_iff.mp hvalues
      obtain ⟨hstop, hpaid'⟩ := ih.leaves hmiddle (ha.keeps hcells hrun) hothers hout
      refine ⟨hstop, ?_⟩
      show (run.events ++ others.events).countP counted + potential stop ≤ potential offset
      rw [List.countP_append]
      omega
    · cases hvalues
    · cases hvalues

theorem optional {last : Action S (List α)} (ha : action.Pays grammar input counted potential)
    (hlast : last.Affords grammar input counted potential) (count : Nat) :
    (action.optional last count).Affords grammar input counted potential := by
  induction count with
  | zero => exact hlast
  | succ count ih =>
    intro offset memory result hoffset hcells hresult
    obtain ⟨run, hrun, hends⟩ := optional_succ_eq_some_iff.mp hresult
    rcases hends with ⟨value, middle, rest, hmatched, hmore, rfl⟩ | ⟨failure, -, rfl⟩ |
      ⟨fault, -, rfl⟩
    · obtain ⟨hmiddle, hpaid⟩ := ha.leaves hoffset hcells hrun hmatched
      have hothers := ih hmiddle (ha.keeps hcells hrun) hmore
      show (run.events ++ rest.events).countP counted ≤ potential offset
      rw [List.countP_append]
      omega
    · -- The round that ends the repetition may use up what the matches have left.
      exact ha.affords hoffset hcells hrun
    · exact ha.affords hoffset hcells hrun

/-- All rounds of a repetition together cost no more than the potential of its start. -/
theorem times (ha : action.Pays grammar input counted potential) (bounds : Bounds) (fuel : Nat) :
    (action.times bounds fuel).Affords grammar input counted potential := by
  refine (ha.required bounds.least).bind_affords fun values => Affords.map (values ++ ·) ?_
  cases bounds.most with
  | none => exact ha.optional affords_unfinished fuel
  | some most => exact ha.optional (Pays.yield []).affords (most - bounds.least)

end Pays

end Action

namespace Event

variable {Rule : Type}

def isMatchOf (name : String) : Event Rule → Bool
  | left probe _ => probe == name
  | _ => false

def isFailureOf (name : String) : Event Rule → Bool
  | missed probe _ => probe == name
  | _ => false

/-- How often the probe of this name recorded how a run in it ended. -/
def departures (name : String) (events : List (Event Rule)) : Nat :=
  events.countP (isMatchOf name) + events.countP (isFailureOf name)

theorem departures_append (name : String) (xs ys : List (Event Rule)) :
    departures name (xs ++ ys) = departures name xs + departures name ys := by
  simp only [departures, List.countP_append]
  omega

theorem departures_eq_zero {name : String} {events : List (Event Rule)}
    (h : ∀ event ∈ events, event.isProbe = false) : departures name events = 0 := by
  have hmatches : events.countP (isMatchOf name) = 0 := by
    refine List.countP_eq_zero.mpr fun event hevent => ?_
    have hprobe := h event hevent
    cases event <;> simp_all [isMatchOf, isProbe]
  have hfailures : events.countP (isFailureOf name) = 0 := by
    refine List.countP_eq_zero.mpr fun event hevent => ?_
    have hprobe := h event hevent
    cases event <;> simp_all [isFailureOf, isProbe]
  rw [departures, hmatches, hfailures]

theorem isProbe_of_mem_observeAll {t : Tracker} {failures : List Failure} {event : Event Rule}
    (h : event ∈ (t.observeAll failures).1) : event.isProbe = false := by
  induction failures generalizing t with
  | nil => cases h
  | cons failure failures ih =>
    rcases List.mem_append.mp h with hfirst | hrest
    · rcases List.mem_cons.mp hfirst with rfl | haccepted
      · rfl
      · split at haccepted
        · rw [List.mem_singleton.mp haccepted]
          rfl
        · cases haccepted
    · exact ih hrest

theorem isProbe_of_mem_opening {cells : Cells S} {grammar : Grammar S} {slot : Nat}
    {rule : S.Rule} {event : Event S.Rule} (h : event ∈ (cells.opening grammar slot rule).events) :
    event.isProbe = false := by
  rcases cells.opening_events grammar slot rule with hevents | hevents
  · rw [hevents] at h
    cases h
  · rw [hevents] at h
    rcases List.mem_cons.mp h with rfl | hforeign
    · rfl
    · obtain ⟨failure, -, rfl⟩ := List.mem_map.mp hforeign
      rfl

theorem departures_departure (name probe : String) (outcome : Outcome Unit) :
    departures name (outcome.departure probe : List (Event Rule)) ≤
      if probe = name then 1 else 0 := by
  cases outcome <;>
    simp [Outcome.departure, departures, List.countP_cons, isMatchOf, isFailureOf]

end Event

/-- The probe of this name is left no more often than it was entered. -/
def Chronicle.departed (S : Signature) (name : String) : Chronicle S where
  holds _ _ _ events _ := Event.departures name events ≤ Event.entries name events
  stay _ _ := Nat.le_refl 0
  goOn := by
    intro offset next memory memory' memory'' outcome xs ys hxs hys
    rw [Event.departures_append, Event.entries_append]
    exact Nat.add_le_add hxs hys
  goBack := by
    intro offset failure memory memory' memory'' outcome xs ys hxs hys
    rw [Event.departures_append, Event.entries_append]
    exact Nat.add_le_add hxs hys

theorem Chronicle.departed_records {grammar : Grammar S} (name : String) :
    (departed S name).Records grammar fun _ => True where
  report offset memory failures outcome := by
    show Event.departures name _ ≤ _
    rw [Event.departures_eq_zero fun _ => Event.isProbe_of_mem_observeAll]
    exact Nat.zero_le _
  node := by
    intro offset memory slot rule outcome events memory' opening hbody
    show Event.departures name (opening.events ++ events) ≤ _
    rw [Event.departures_append, Event.entries_append,
      Event.departures_eq_zero fun _ => Event.isProbe_of_mem_opening]
    exact Nat.add_le_add (Nat.zero_le _) hbody
  enter := by
    intro offset memory outcome events memory' probe _ hrun
    have hentered : Event.departures name [(.entered probe offset : Event S.Rule)] = 0 := rfl
    have hleft : Event.departures name (outcome.departure probe : List (Event S.Rule)) ≤
        if probe = name then 1 else 0 := Event.departures_departure name probe outcome
    have hinside : Event.departures name events ≤ Event.entries name events := hrun
    show Event.departures name ([.entered probe offset] ++ (events ++ outcome.departure probe)) ≤
      Event.entries name (.entered probe offset :: (events ++ outcome.departure probe))
    rw [Event.departures_append, Event.departures_append, Event.entries_entered,
      Event.entries_append, Event.entries_departure, hentered]
    omega

namespace Parser

variable {grammar : Grammar S} {input : Text} {p : Parser S α} {name : String}
  {fuel offset : Nat} {memory : Memory S} {run : Run S α}

theorem NeverEnters.departures (hp : p.NeverEnters grammar input name)
    (hcells : memory.cells.Faithful grammar)
    (hrun : p.runWithin grammar input fuel offset memory = some run) :
    Event.departures name run.events = 0 := by
  have hall : ∀ {γ : Type} (q : Parser S γ), q.Probes fun _ => True :=
    probes_of_forall fun _ => trivial
  have hdeparted : Event.departures name run.events ≤ Event.entries name run.events :=
    ((Chronicle.departed_records name).runWithin (fun rule => hall (grammar.body rule)) input fuel
      (hall p) hrun hcells).2
  rw [hp fuel offset memory run hcells hrun] at hdeparted
  exact Nat.eq_zero_of_le_zero hdeparted

/-- A probed run records once how it ended, unless by a fault. -/
theorem NeverEnters.records (hp : p.NeverEnters grammar input name)
    (hcells : memory.cells.Faithful grammar)
    (hrun : (Parser.probe name p).runWithin grammar input fuel offset memory = some run) :
    (run.events.countP (Event.isMatchOf name), run.events.countP (Event.isFailureOf name)) =
      match run.outcome with
      | .matched _ _ => (1, 0)
      | .failed _ => (0, 1)
      | .faulted _ => (0, 0) := by
  rw [runWithin_probe] at hrun
  obtain ⟨inner, hinner, rfl⟩ := Option.map_eq_some_iff.mp hrun
  obtain ⟨hmatches, hfailures⟩ := Nat.add_eq_zero_iff.mp (hp.departures hcells hinner)
  rw [Run.events_leaving_after, Run.outcome_after, Run.outcome_leaving]
  cases inner.outcome <;>
    simp [List.countP_append, hmatches, hfailures, Event.isMatchOf, Event.isFailureOf]

end Parser

end Descent
