import Descent.Proofs.Potential
import Descent.Proofs.Separation

/-!
# Repetitions come to an end

A repetition without an upper bound goes on for as long as its parser matches. If every match takes
something off the rest of the input, that rest is a measure for the rounds: it tells that they come
to an end and how many there can be. In a separated list the separator may take nothing, since the
item behind it does.
-/

namespace Descent

variable {S : Signature} {α β : Type}

/-- Behind the matches that have to be made, a repetition has no lower bound any more. -/
theorem Bounds.dropped_least (bounds : Bounds) :
    bounds.dropped bounds.least = .atLeast 0 ∨
      ∃ count, bounds.dropped bounds.least = .atMost count := by
  obtain ⟨least, most, ordered⟩ := bounds
  cases most with
  | none => exact .inl (by simp [dropped, atLeast])
  | some most => exact .inr ⟨most - least, by simp [dropped, atMost]⟩

/-- A fault, if there is one, is of an allowed kind. -/
def Outcome.FaultsIn (allowed : Fault → Prop) (outcome : Outcome α) : Prop :=
  ∀ fault, outcome = .faulted fault → allowed fault

theorem Outcome.faultsIn_map {allowed : Fault → Prop} {f : α → β} {outcome : Outcome α} :
    (outcome.map f).FaultsIn allowed ↔ outcome.FaultsIn allowed := by
  cases outcome <;> simp [FaultsIn, Outcome.map]

def Action.Ends (allowed : Fault → Prop) (action : Action S α) : Prop :=
  ∀ offset memory, ∃ run, action offset memory = some run ∧ run.outcome.FaultsIn allowed

theorem Action.ends_yield {allowed : Fault → Prop} (value : α) :
    (yield value : Action S α).Ends allowed :=
  fun _ _ => ⟨_, rfl, by rintro _ ⟨⟩⟩

/-- There is a byte between the ends for each of the values. -/
structure Text.Fits (t : Text) (start : Nat) (values : List α) (stop : Nat) : Prop where
  length_le : start + values.length ≤ stop
  reaches : t.Reaches start stop

namespace Text.Fits

variable {t : Text} {start middle stop : Nat} {values : List α}

theorem nil (h : t.IsBoundary start) : t.Fits start ([] : List α) start :=
  ⟨Nat.le_refl start, h.reaches_self⟩

theorem cons (value : α) (hlt : start < middle) (hfirst : t.Reaches start middle)
    (h : t.Fits middle values stop) : t.Fits start (value :: values) stop := by
  refine ⟨?_, hfirst.trans h.reaches⟩
  have hlength := h.length_le
  rw [List.length_cons]
  omega

theorem length_le_rest (h : t.Fits start values stop) : values.length ≤ t.size - start := by
  have hlength := h.length_le
  have hstop := h.reaches.le_size
  omega

end Text.Fits

namespace Parser

variable {grammar : Grammar S} {input : Text} {allowed : Fault → Prop} {p : Parser S α}

/-- From every boundary and with any tracker a run ends, with a fault only if that is allowed. -/
def Halts (grammar : Grammar S) (input : Text) (allowed : Fault → Prop) (p : Parser S α) : Prop :=
  ∀ ⦃offset : Nat⦄ ⦃memory : Memory S⦄, input.IsBoundary offset → memory.cells.Faithful grammar →
    ∃ fuel run, p.runWithin grammar input fuel offset memory = some run ∧
      run.outcome.FaultsIn allowed

/-- All matches from boundaries relate their start, their value and their end. -/
def Relates (grammar : Grammar S) (input : Text) (R : Nat → α → Nat → Prop) (p : Parser S α) :
    Prop :=
  ∀ ⦃offset : Nat⦄ ⦃value : α⦄ ⦃next : Nat⦄, input.IsBoundary offset →
    p.Answers grammar input offset (.matched value next) → R offset value next

def Reaches (grammar : Grammar S) (input : Text) (p : Parser S α) : Prop :=
  p.Relates grammar input fun offset _ next => input.Reaches offset next

/-- Matches from boundaries end at boundaries further on. -/
def Advances (grammar : Grammar S) (input : Text) (p : Parser S α) : Prop :=
  p.Relates grammar input fun offset _ next => offset < next ∧ input.Reaches offset next

section Relates

variable {R : Nat → α → Nat → Prop}

theorem relates_iff :
    p.Relates grammar input R ↔
      ∀ fuel, (p.runWithin grammar input fuel).Relates grammar input R := by
  constructor
  · intro h fuel offset memory run hcells hoffset hrun
    refine ⟨(faithful_and_tracker_of_run hcells hrun).1, fun value next hmatched => ?_⟩
    exact h hoffset ⟨fuel, memory, run, hcells, hrun, hmatched⟩
  · rintro h offset value next hoffset ⟨fuel, memory, run, hcells, hrun, hmatched⟩
    exact (h fuel hcells hoffset hrun).2 value next hmatched

theorem Relates.mono {Q : Nat → α → Nat → Prop} (h : p.Relates grammar input R)
    (hQ : ∀ {offset value next}, R offset value next → Q offset value next) :
    p.Relates grammar input Q :=
  fun _ _ _ hoffset hanswer => hQ (h hoffset hanswer)

theorem Relates.map {Q : Nat → β → Nat → Prop} {f : α → β} (h : p.Relates grammar input R)
    (hf : ∀ {offset value next}, R offset value next → Q offset (f value) next) :
    (p.map f).Relates grammar input Q := by
  refine relates_iff.mpr fun fuel => ?_
  rw [runWithin_map]
  exact (relates_iff.mp h fuel).map hf

theorem Relates.bind {R' : α → Nat → β → Nat → Prop} {Q : Nat → β → Nat → Prop}
    {f : α → Parser S β} (h : p.Relates grammar input R)
    (h' : ∀ value, (f value).Relates grammar input (R' value))
    (hstop : ∀ {offset a middle}, R offset a middle → input.IsBoundary middle)
    (hboth : ∀ {offset a middle b stop}, R offset a middle → R' a middle b stop →
      Q offset b stop) : (p.bind f).Relates grammar input Q := by
  refine relates_iff.mpr fun fuel => ?_
  rw [runWithin_bind]
  exact (relates_iff.mp h fuel).bind (fun value => relates_iff.mp (h' value) fuel) hstop hboth

theorem Relates.times {Q : Nat → List α → Nat → Prop} (h : p.Relates grammar input R)
    (hstop : ∀ {offset a middle}, R offset a middle → input.IsBoundary middle)
    (hnil : ∀ {offset}, input.IsBoundary offset → Q offset [] offset)
    (hcons : ∀ {offset a middle values stop}, R offset a middle → Q middle values stop →
      Q offset (a :: values) stop) (bounds : Bounds) :
    (p.times bounds).Relates grammar input Q := by
  refine relates_iff.mpr fun fuel => ?_
  cases fuel with
  | zero => exact Action.relates_unfinished
  | succ fuel => exact (relates_iff.mp h (fuel + 1)).times hstop hnil hcons bounds fuel

theorem IsPlain.reaches (hg : grammar.IsPlain) (hp : p.IsPlain) : p.Reaches grammar input := by
  rintro offset value next hoffset ⟨fuel, memory, run, hcells, hrun, hmatched⟩
  exact reaches_of_matched (staysInside_runWithin hg hp hrun hcells hoffset) hmatched

theorem Advances.reaches (h : p.Advances grammar input) : p.Reaches grammar input :=
  h.mono And.right

theorem Reaches.advances (h : p.Reaches grammar input)
    (hlt : p.Relates grammar input fun offset _ next => offset < next) :
    p.Advances grammar input :=
  fun _ _ _ hoffset hanswer => ⟨hlt hoffset hanswer, h hoffset hanswer⟩

theorem Advances.probe (name : String) (h : p.Advances grammar input) :
    (Parser.probe name p).Advances grammar input := by
  intro offset value next hoffset hanswer
  rw [answers_probe] at hanswer
  exact h hoffset hanswer

theorem Reaches.times (h : p.Reaches grammar input) (bounds : Bounds) :
    (p.times bounds).Reaches grammar input := by
  refine Relates.times h (fun hround => hround.isBoundary) ?_ ?_ bounds
  · exact fun hoffset => hoffset.reaches_self
  · exact fun hround hmore => hround.trans hmore

theorem Advances.andThen {separator : Parser S β} (h : p.Advances grammar input)
    (hs : separator.Reaches grammar input) : (separator.andThen p).Advances grammar input := by
  refine Relates.bind hs (fun _ => h) (fun hmark => hmark.isBoundary) ?_
  rintro offset mark middle value stop hmark ⟨hlt, hitem⟩
  -- The separator may take nothing; the item behind it does not.
  exact ⟨Nat.lt_of_le_of_lt hmark.start_le hlt, hmark.trans hitem⟩

theorem Advances.fits (h : p.Advances grammar input) (bounds : Bounds) :
    (p.times bounds).Relates grammar input input.Fits :=
  Relates.times h (fun hround => hround.2.isBoundary) .nil
    (fun hround => .cons _ hround.1 hround.2) bounds

end Relates

section Halts

/-- The answers of a plain parser do not depend on the memory, so one run for each boundary will
do. -/
theorem IsPlain.halts_and_relates {R : Nat → α → Nat → Prop} (hg : grammar.IsPlain)
    (hp : p.IsPlain)
    (h : ∀ offset, input.IsBoundary offset →
      ∃ outcome, p.Answers grammar input offset outcome ∧ outcome.FaultsIn allowed ∧
        ∀ value next, outcome = .matched value next → R offset value next) :
    p.Halts grammar input allowed ∧ p.Relates grammar input R := by
  constructor
  · intro offset memory hoffset hcells
    obtain ⟨outcome, hanswer, hfaults, -⟩ := h offset hoffset
    obtain ⟨enough, hall⟩ := hanswer.exists_run hg hp
    obtain ⟨run, hrun, rfl⟩ := hall enough (Nat.le_refl enough) memory hcells
    exact ⟨enough, run, hrun, hfaults⟩
  · intro offset value next hoffset hanswer
    obtain ⟨outcome, hanswer', -, hrelates⟩ := h offset hoffset
    exact hrelates value next (hp.isSteady hg _ _ _ hanswer' hanswer)

theorem Halts.congr {q : Parser S α} (hq : q.Halts grammar input allowed)
    (h : ∀ fuel, p.runWithin grammar input fuel = q.runWithin grammar input fuel) :
    p.Halts grammar input allowed := by
  intro offset memory hoffset hcells
  obtain ⟨fuel, run, hrun, hfaults⟩ := hq hoffset hcells
  exact ⟨fuel, run, by rw [h, hrun], hfaults⟩

theorem halts_always (value : α) : (always value).Halts grammar input allowed := by
  intro offset memory _ _
  exact ⟨1, _, rfl, by rintro _ ⟨⟩⟩

theorem Halts.map (f : α → β) (hp : p.Halts grammar input allowed) :
    (p.map f).Halts grammar input allowed := by
  intro offset memory hoffset hcells
  obtain ⟨fuel, run, hrun, hfaults⟩ := hp hoffset hcells
  refine ⟨fuel, run.map f, ?_, Outcome.faultsIn_map.mpr hfaults⟩
  rw [runWithin_map]
  exact Option.map_eq_some_iff.mpr ⟨run, hrun, rfl⟩

theorem Halts.bind {f : α → Parser S β} (hp : p.Halts grammar input allowed)
    (hreaches : p.Reaches grammar input) (hf : ∀ value, (f value).Halts grammar input allowed) :
    (p.bind f).Halts grammar input allowed := by
  intro offset memory hoffset hcells
  obtain ⟨fuel, run, hrun, hfaults⟩ := hp hoffset hcells
  cases hout : run.outcome with
  | matched value middle =>
    have hmiddle := (hreaches hoffset (hout ▸ answers_of_run hcells hrun)).isBoundary
    have hleft := (faithful_and_tracker_of_run hcells hrun).1
    obtain ⟨fuel', rest, hrest, hfaults'⟩ := hf value hmiddle hleft
    have hlong := runWithin_mono (Nat.le_max_left fuel fuel') hrun
    have hlong' := runWithin_mono (Nat.le_max_right fuel fuel') hrest
    refine ⟨max fuel fuel', rest.after run.events, ?_, hfaults'⟩
    rw [runWithin_bind, Action.bind_of_matched hlong hout, hlong', Option.map_some]
  | failed failure =>
    refine ⟨fuel, ⟨.failed failure, run.events, run.memory⟩, ?_, by rintro _ ⟨⟩⟩
    rw [runWithin_bind]
    exact Action.bind_of_failed hrun hout
  | faulted fault =>
    refine ⟨fuel, ⟨.faulted fault, run.events, run.memory⟩, ?_, ?_⟩
    · rw [runWithin_bind]
      exact Action.bind_of_faulted hrun hout
    · rintro _ ⟨⟩
      exact hfaults fault hout

theorem Halts.orElse {q : Parser S α} (hp : p.Halts grammar input allowed)
    (hq : q.Halts grammar input allowed) : (p.orElse q).Halts grammar input allowed := by
  intro offset memory hoffset hcells
  obtain ⟨fuel, run, hrun, hfaults⟩ := hp hoffset hcells
  by_cases hends : ∃ failure, run.outcome = .failed failure
  · obtain ⟨failure, hfailed⟩ := hends
    have hleft := (faithful_and_tracker_of_run hcells hrun).1
    obtain ⟨fuel', rest, hrest, hfaults'⟩ := hq hoffset hleft
    have hlong := runWithin_mono (Nat.le_max_left fuel fuel') hrun
    have hlong' := runWithin_mono (Nat.le_max_right fuel fuel') hrest
    refine ⟨max fuel fuel', rest.after run.events, ?_, hfaults'⟩
    rw [runWithin_orElse, Action.orElse_of_failed hlong hfailed, hlong', Option.map_some]
  · refine ⟨fuel, run, ?_, hfaults⟩
    rw [runWithin_orElse]
    exact Action.orElse_of_not_failed hrun (not_exists.mp hends)

end Halts

section Repetitions

/-- With enough fuel, optional rounds end here: with the `last` action, or before their count since
not so many bytes are left. -/
def RoundsEnd (grammar : Grammar S) (input : Text) (allowed : Fault → Prop) (p : Parser S α)
    (offset : Nat) (memory : Memory S) : Prop :=
  ∃ enough, ∀ fuel, enough ≤ fuel → ∀ (last : Action S (List α)) (count : Nat),
    last.Ends allowed ∨ input.size - offset < count →
      ∃ run, (p.runWithin grammar input fuel).optional last count offset memory = some run ∧
        run.outcome.FaultsIn allowed

theorem RoundsEnd.of_round {fuel offset : Nat} {memory : Memory S} {run : Run S α}
    (hrun : p.runWithin grammar input fuel offset memory = some run)
    (hfaults : run.outcome.FaultsIn allowed)
    (hmore : ∀ value middle, run.outcome = .matched value middle →
      input.size - middle < input.size - offset ∧
        p.RoundsEnd grammar input allowed middle run.memory) :
    p.RoundsEnd grammar input allowed offset memory := by
  have hsucc : ∃ enough, ∀ fuel, enough ≤ fuel → ∀ (last : Action S (List α)) (count : Nat),
      last.Ends allowed ∨ input.size - offset < count + 1 →
        ∃ run, (p.runWithin grammar input fuel).optional last (count + 1) offset memory = some run ∧
          run.outcome.FaultsIn allowed := by
    cases hout : run.outcome with
    | matched value middle =>
      obtain ⟨hless, enough, hall⟩ := hmore value middle hout
      refine ⟨max fuel enough, fun fuel' hfuel last count hends => ?_⟩
      obtain ⟨others, hothers, hfaults'⟩ := hall fuel' (by omega) last count
        (hends.imp_right fun hcount => by omega)
      have hlong := runWithin_mono (by omega : fuel ≤ fuel') hrun
      refine ⟨(others.map (value :: ·)).after run.events, ?_, Outcome.faultsIn_map.mpr hfaults'⟩
      exact Action.optional_succ_eq_some_iff.mpr
        ⟨run, hlong, .inl ⟨value, middle, others, hout, hothers, rfl⟩⟩
    | failed failure =>
      refine ⟨fuel, fun fuel' hfuel last count _ => ?_⟩
      exact ⟨_, Action.optional_of_failed (runWithin_mono hfuel hrun) hout count,
        by rintro _ ⟨⟩⟩
    | faulted fault =>
      refine ⟨fuel, fun fuel' hfuel last count _ => ?_⟩
      refine ⟨_, Action.optional_of_faulted (runWithin_mono hfuel hrun) hout count, ?_⟩
      rintro _ ⟨⟩
      exact hfaults fault hout
  obtain ⟨enough, hall⟩ := hsucc
  refine ⟨enough, fun fuel hfuel last count hends => ?_⟩
  cases count with
  | zero => exact (hends.resolve_right (Nat.not_lt_zero _)) offset memory
  | succ count => exact hall fuel hfuel last count hends

theorem Halts.roundsEnd (hp : p.Halts grammar input allowed) (hadvances : p.Advances grammar input)
    {offset : Nat} {memory : Memory S} (hoffset : input.IsBoundary offset)
    (hcells : memory.cells.Faithful grammar) :
    p.RoundsEnd grammar input allowed offset memory := by
  -- What is left of the input is the measure; a match takes something off it.
  induction hrest : input.size - offset using Nat.strongRecOn generalizing offset memory with
  | ind rest ih =>
    obtain ⟨fuel, run, hrun, hfaults⟩ := hp hoffset hcells
    refine .of_round hrun hfaults fun value middle hout => ?_
    obtain ⟨hlt, hreaches⟩ := hadvances hoffset (hout ▸ answers_of_run hcells hrun)
    have hle := hreaches.le_size
    have hless : input.size - middle < input.size - offset := by omega
    have hleft := (faithful_and_tracker_of_run hcells hrun).1
    exact ⟨hless, ih _ (hrest ▸ hless) hreaches.isBoundary hleft rfl⟩

theorem Halts.many (hp : p.Halts grammar input allowed) (hadvances : p.Advances grammar input) :
    p.many.Halts grammar input allowed := by
  intro offset memory hoffset hcells
  obtain ⟨enough, hall⟩ := hp.roundsEnd hadvances hoffset hcells
  let fuel := max enough (input.size + 1)
  obtain ⟨run, hrun, hfaults⟩ := hall (fuel + 1) (by omega) .unfinished fuel (.inr (by omega))
  refine ⟨fuel + 1, run, ?_, hfaults⟩
  rw [runWithin_many]
  exact hrun

theorem Halts.atMost (hp : p.Halts grammar input allowed) (hadvances : p.Advances grammar input)
    (count : Nat) : (p.times (.atMost count)).Halts grammar input allowed := by
  intro offset memory hoffset hcells
  obtain ⟨enough, hall⟩ := hp.roundsEnd hadvances hoffset hcells
  obtain ⟨run, hrun, hfaults⟩ :=
    hall (enough + 1) (by omega) (.yield []) count (.inl (Action.ends_yield []))
  refine ⟨enough + 1, run, ?_, hfaults⟩
  rw [← Action.times_atMost _ count enough] at hrun
  exact hrun

theorem Halts.exactly (hp : p.Halts grammar input allowed) (hreaches : p.Reaches grammar input)
    (count : Nat) : (p.times (.exactly count)).Halts grammar input allowed := by
  have hrequired : ∀ (count fuel : Nat), (p.times (.exactly count)).runWithin grammar input
      (fuel + 1) = (p.runWithin grammar input (fuel + 1)).required count :=
    fun count fuel => Action.times_exactly _ count fuel
  induction count with
  | zero =>
    refine (halts_always []).congr fun fuel => ?_
    cases fuel with
    | zero => rfl
    | succ fuel => exact hrequired 0 fuel
  | succ count ih =>
    have hrounds : (p.bind fun value => (p.times (.exactly count)).map (value :: ·)).Halts grammar
        input allowed := hp.bind hreaches fun value => ih.map (value :: ·)
    refine hrounds.congr fun fuel => ?_
    cases fuel with
    | zero => rfl
    | succ fuel =>
      rw [runWithin_bind, hrequired]
      simp only [runWithin_map, hrequired]
      rfl

theorem Halts.times (hp : p.Halts grammar input allowed) (hadvances : p.Advances grammar input)
    (bounds : Bounds) : (p.times bounds).Halts grammar input allowed := by
  have hsurplus : (p.times (bounds.dropped bounds.least)).Halts grammar input allowed := by
    rcases bounds.dropped_least with hmany | ⟨count, hmost⟩
    · rw [hmany]
      exact hp.many hadvances
    · rw [hmost]
      exact hp.atMost hadvances count
  have hboth : ((p.times (.exactly bounds.least)).bind fun values =>
      (p.times (bounds.dropped bounds.least)).map (values ++ ·)).Halts grammar input allowed :=
    (hp.exactly hadvances.reaches bounds.least).bind (hadvances.reaches.times _)
      fun values => hsurplus.map (values ++ ·)
  refine hboth.congr fun fuel => ?_
  rw [runWithin_times_dropped p (Nat.le_refl bounds.least), runWithin_appended, runWithin_bind]
  simp only [runWithin_map]
  rfl

theorem least_le_length {bounds : Bounds} {fuel offset next : Nat} {memory : Memory S}
    {run : Run S (List α)} {values : List α} (hcells : memory.cells.Faithful grammar)
    (hrun : (p.times bounds).runWithin grammar input fuel offset memory = some run)
    (hmatched : run.outcome = .matched values next) : bounds.least ≤ values.length := by
  obtain ⟨-, rounds, -, -, hrepeats⟩ :=
    repeats_runWithin (fun _ => True) (fun _ _ _ _ _ _ => trivial) bounds fuel hcells hrun
  rw [hmatched] at hrepeats
  exact (Repeats.matched_iff.mp hrepeats).2.1

theorem Halts.atLeast_fails (hp : p.Halts grammar input allowed)
    (hadvances : p.Advances grammar input) {least offset : Nat} {memory : Memory S}
    (hoffset : input.IsBoundary offset) (hcells : memory.cells.Faithful grammar)
    (hleast : input.size - offset < least) :
    ∃ fuel run, (p.atLeast least).runWithin grammar input fuel offset memory = some run ∧
      ((∃ failure, run.outcome = .failed failure) ∨
        ∃ fault, allowed fault ∧ run.outcome = .faulted fault) := by
  obtain ⟨fuel, run, hrun, hfaults⟩ := hp.times hadvances (.atLeast least) hoffset hcells
  refine ⟨fuel, run, hrun, ?_⟩
  cases hout : run.outcome with
  | matched values next =>
    have hfits : input.Fits offset values next :=
      hadvances.fits (.atLeast least) hoffset (hout ▸ answers_of_run hcells hrun)
    have henough : least ≤ values.length := least_le_length hcells hrun hout
    have hroom := hfits.length_le_rest
    omega
  | failed failure => exact .inl ⟨failure, rfl⟩
  | faulted fault => exact .inr ⟨fault, hfaults fault hout, rfl⟩

end Repetitions

section Rounds

variable {name : String}

/-- Every match of a probed round is paid for by a byte that it takes. -/
theorem NeverEnters.pays_matches (hname : p.NeverEnters grammar input name)
    (hadvances : p.Advances grammar input) (fuel : Nat) :
    ((Parser.probe name p).runWithin grammar input fuel).Pays grammar input
      (Event.isMatchOf name) (input.size - ·) := by
  refine .of_outcomes (keeps_runWithin _ fuel) ?_ ?_
  · intro offset memory run value next hoffset hcells hrun hmatched
    have hrecords := hname.records hcells hrun
    rw [hmatched] at hrecords
    have hone : run.events.countP (Event.isMatchOf name) = 1 := (Prod.mk.inj hrecords).1
    obtain ⟨hlt, hreaches⟩ :=
      hadvances.probe name hoffset (hmatched ▸ answers_of_run hcells hrun)
    have hle := hreaches.le_size
    refine ⟨hreaches.isBoundary, ?_⟩
    show run.events.countP (Event.isMatchOf name) + (input.size - next) ≤ input.size - offset
    omega
  · intro offset memory run hoffset hcells hrun hends
    have hrecords := hname.records hcells hrun
    have hnone : run.events.countP (Event.isMatchOf name) = 0 := by
      cases hout : run.outcome <;> rw [hout] at hends hrecords
      · cases hends
      · exact (Prod.mk.inj hrecords).1
      · exact (Prod.mk.inj hrecords).1
    rw [hnone]
    exact Nat.zero_le _

theorem NeverEnters.pays_failures (hname : p.NeverEnters grammar input name)
    (hadvances : p.Advances grammar input) (fuel : Nat) :
    ((Parser.probe name p).runWithin grammar input fuel).Pays grammar input
      (Event.isFailureOf name) (fun _ => 1) := by
  refine .of_outcomes (keeps_runWithin _ fuel) ?_ ?_
  · -- A match costs nothing, so the one failure at the end can still be paid for.
    intro offset memory run value next hoffset hcells hrun hmatched
    have hrecords := hname.records hcells hrun
    rw [hmatched] at hrecords
    have hnone : run.events.countP (Event.isFailureOf name) = 0 := (Prod.mk.inj hrecords).2
    obtain ⟨-, hreaches⟩ :=
      hadvances.probe name hoffset (hmatched ▸ answers_of_run hcells hrun)
    refine ⟨hreaches.isBoundary, ?_⟩
    show run.events.countP (Event.isFailureOf name) + 1 ≤ 1
    omega
  · intro offset memory run hoffset hcells hrun hends
    have hrecords := hname.records hcells hrun
    cases hout : run.outcome <;> rw [hout] at hends hrecords
    · cases hends
    · exact Nat.le_of_eq (Prod.mk.inj hrecords).2
    · exact Nat.le_trans (Nat.le_of_eq (Prod.mk.inj hrecords).2) (Nat.zero_le 1)

theorem exists_probed_rounds (hname : p.NeverEnters grammar input name)
    (hadvances : p.Advances grammar input) {bounds : Bounds} {fuel offset : Nat}
    {memory : Memory S} {run : Run S (List α)} (hoffset : input.IsBoundary offset)
    (hcells : memory.cells.Faithful grammar)
    (hrun : (p.times bounds).runWithin grammar input fuel offset memory = some run) :
    ∃ probed, ((Parser.probe name p).times bounds).runWithin grammar input fuel offset memory =
        some probed ∧ probed.outcome = run.outcome ∧
      probed.events.countP (Event.isMatchOf name) ≤ input.size - offset ∧
      probed.events.countP (Event.isFailureOf name) ≤ 1 := by
  obtain ⟨probed, hprobed, hout⟩ := exists_probed_times name hrun
  cases fuel with
  | zero => cases hrun
  | succ fuel =>
    have hmatches := (hname.pays_matches hadvances (fuel + 1)).times bounds fuel
    have hfailures := (hname.pays_failures hadvances (fuel + 1)).times bounds fuel
    exact ⟨probed, hprobed, hout, hmatches hoffset hcells hprobed,
      hfailures hoffset hcells hprobed⟩

end Rounds

section Lists

variable {separator : Parser S β}

theorem Halts.sepBy1 (hp : p.Halts grammar input allowed) (hadvances : p.Advances grammar input)
    (hs : separator.Halts grammar input allowed) (hreaches : separator.Reaches grammar input) :
    (p.sepBy1 separator).Halts grammar input allowed := by
  have hpair : (separator.andThen p).Halts grammar input allowed := hs.bind hreaches fun _ => hp
  have hpairs := hpair.many (hadvances.andThen hreaches)
  exact (hp.bind hadvances.reaches fun first => hpairs.map (first :: ·)).congr
    (runWithin_sepBy1 p separator)

theorem Advances.sepBy1_fits (hadvances : p.Advances grammar input)
    (hreaches : separator.Reaches grammar input) :
    (p.sepBy1 separator).Relates grammar input input.Fits := by
  have hpairs := (hadvances.andThen hreaches).fits (.atLeast 0)
  have hrest : ∀ first : α, ((separator.andThen p).many.map (first :: ·)).Relates grammar input
      fun offset values next =>
        ∃ others, input.Fits offset others next ∧ first :: others = values :=
    fun first => hpairs.map fun hothers => ⟨_, hothers, rfl⟩
  have hlist : (p.bind fun first => (separator.andThen p).many.map (first :: ·)).Relates grammar
      input input.Fits := by
    refine Relates.bind hadvances hrest (fun hfirst => hfirst.2.isBoundary) ?_
    rintro offset first middle _ stop ⟨hlt, hfirst⟩ ⟨others, hothers, rfl⟩
    exact .cons first hlt hfirst hothers
  intro offset values next hoffset hanswer
  rw [answers_congr (runWithin_sepBy1 p separator)] at hanswer
  exact hlist hoffset hanswer

end Lists

/-- Repetitions of a parser that halts and takes something with every match halt as well. They run
it no more often than there are bytes left, but for one failure at the end, so they fail if they
have to match more often than that. The separator of a list has to halt, and may take nothing. -/
theorem repetitions_halt (hg : grammar.IsPlain) (hp : p.IsPlain)
    (hhalts : p.Halts grammar input allowed)
    (hlt : p.Relates grammar input fun offset _ next => offset < next) :
    (∀ bounds, (p.times bounds).Halts grammar input allowed) ∧
    (∀ least, (p.atLeast least).Halts grammar input allowed) ∧
    p.many.Halts grammar input allowed ∧
    (∀ bounds name fuel offset memory run, p.NeverEnters grammar input name →
      input.IsBoundary offset → memory.cells.Faithful grammar →
      (p.times bounds).runWithin grammar input fuel offset memory = some run →
        ∃ probed, ((Parser.probe name p).times bounds).runWithin grammar input fuel offset memory =
            some probed ∧ probed.outcome = run.outcome ∧
          probed.events.countP (Event.isMatchOf name) ≤ input.size - offset ∧
          probed.events.countP (Event.isFailureOf name) ≤ 1) ∧
    (∀ bounds : Bounds, p.tryTimes bounds.least bounds.most = .ok (p.times bounds)) ∧
    (∀ least, p.tryTimes least none = .ok (p.atLeast least)) ∧ p.tryTimes 0 none = .ok p.many ∧
    (∀ least offset memory, input.IsBoundary offset → memory.cells.Faithful grammar →
      input.size - offset < least →
        ∃ fuel run, (p.atLeast least).runWithin grammar input fuel offset memory = some run ∧
          ((∃ failure, run.outcome = .failed failure) ∨
            ∃ fault, allowed fault ∧ run.outcome = .faulted fault)) ∧
    ∀ {β : Type} (separator : Parser S β), separator.Halts grammar input allowed →
      separator.Reaches grammar input →
        (p.sepBy1 separator).Halts grammar input allowed ∧
        (p.sepBy separator).Halts grammar input allowed ∧
        (p.sepBy1 separator).Relates grammar input
          fun offset values _ => values.length ≤ input.size - offset := by
  have hadvances : p.Advances grammar input := (IsPlain.reaches hg hp).advances hlt
  refine ⟨hhalts.times hadvances, fun least => hhalts.times hadvances (.atLeast least),
    hhalts.many hadvances, ?_, tryTimes_bounds p, fun least => tryTimes_bounds p (.atLeast least),
    tryTimes_bounds p (.atLeast 0), ?_, ?_⟩
  · intro bounds name fuel offset memory run hname hoffset hcells hrun
    exact exists_probed_rounds hname hadvances hoffset hcells hrun
  · intro least offset memory hoffset hcells hleast
    exact hhalts.atLeast_fails hadvances hoffset hcells hleast
  · intro β separator hs hreaches
    have hlist := hhalts.sepBy1 hadvances hs hreaches
    exact ⟨hlist, hlist.orElse (halts_always []),
      (hadvances.sepBy1_fits hreaches).mono fun hfits => hfits.length_le_rest⟩

end Parser

/-- Eight nests are too many for the seven bytes behind the letter, and all the nests there are make
two matches. Between them a separator that takes nothing does no harm. -/
theorem Nested.inParentheses_halts :
    (∃ fuel run, (inParentheses.atLeast 8).runWithin Nested.grammar "é()(())(".toList fuel 2
        (.fresh .empty) = some run ∧ ∃ failure, run.outcome = .failed failure) ∧
    (∃ probed, ((Parser.probe "round" inParentheses).times (.atLeast 0)).runWithin Nested.grammar
        "é()(())(".toList 10 2 (.fresh .empty) = some probed ∧
      probed.outcome = .matched [1, 2] 8 ∧
      probed.events.countP (Event.isMatchOf "round") ≤ 7 ∧
      probed.events.countP (Event.isFailureOf "round") ≤ 1) ∧
    (inParentheses.sepBy (.always ())).Halts Nested.grammar "é()(())(".toList fun _ => False := by
  have hruns : ∀ offset < 10, Text.IsBoundary "é()(())(".toList offset →
      ∃ outcome, outcome ∈ (inParentheses.runWithin Nested.grammar "é()(())(".toList 9 offset
        (.fresh .empty)).map (·.outcome) ∧
          (match outcome with
            | .matched _ next => decide (offset < next)
            | .failed _ => true
            | .faulted _ => false) = true := by
    decide +kernel
  have hmatched : ((inParentheses.times (.atLeast 0)).runWithin Nested.grammar "é()(())(".toList 10
      2 (.fresh .empty)).map (·.outcome) = some (.matched [1, 2] 8) := by
    decide +kernel
  have hboundary : Text.IsBoundary "é()(())(".toList 2 := by decide
  have hempty : (Memory.fresh .empty : Memory Nested).cells.Faithful Nested.grammar :=
    Cells.faithful_empty
  obtain ⟨hhalts, hlt⟩ : inParentheses.Halts Nested.grammar "é()(())(".toList (fun _ => False) ∧
      inParentheses.Relates Nested.grammar "é()(())(".toList
        fun offset _ next => offset < next := by
    refine Parser.IsPlain.halts_and_relates isPlain_grammar isPlain_inParentheses ?_
    intro offset hoffset
    obtain ⟨outcome, hmem, hends⟩ := hruns offset (Nat.lt_succ_of_le hoffset.le_size) hoffset
    obtain ⟨run, hrun, rfl⟩ := Option.map_eq_some_iff.mp hmem
    refine ⟨run.outcome, Parser.answers_of_run hempty hrun, ?_, ?_⟩
    · intro fault hfaulted
      rw [hfaulted] at hends
      cases hends
    · intro value next hmatched
      rw [hmatched] at hends
      exact of_decide_eq_true hends
  obtain ⟨-, -, -, hcounts, -, -, -, hfails, hlists⟩ :=
    Parser.repetitions_halt isPlain_grammar isPlain_inParentheses hhalts hlt
  refine ⟨?_, ?_, ?_⟩
  · obtain ⟨fuel, run, hrun, hfailed | ⟨_, hnone, -⟩⟩ :=
      hfails 8 2 (.fresh .empty) hboundary hempty (by decide)
    · exact ⟨fuel, run, hrun, hfailed⟩
    · exact hnone.elim
  · obtain ⟨run, hrun, hout⟩ := Option.map_eq_some_iff.mp hmatched
    obtain ⟨probed, hprobed, hsame, hmatches, hfailures⟩ :=
      hcounts (.atLeast 0) "round" 10 2 _ run (neverEnters_round _) hboundary hempty hrun
    exact ⟨probed, hprobed, hsame.trans hout, hmatches, hfailures⟩
  · have hnothing : (Parser.always () : Parser Nested Unit).IsPlain := trivial
    exact (hlists (.always ()) (Parser.halts_always ())
      (Parser.IsPlain.reaches isPlain_grammar hnothing)).2.1

end Descent
