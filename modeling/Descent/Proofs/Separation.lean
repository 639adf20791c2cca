import Descent.Proofs.Choice
import Descent.Proofs.Matching

/-!
# Separated lists

A separated list is an item and then many pairs of a separator and an item. It ends behind an item,
where either no separator follows or one that is not followed by an item; such a separator is given
back, and only the report of the item that is missing behind it remains.
-/

namespace Descent

variable {S : Signature} {α β : Type}

/-- How two things in a row end: as the second one does if the first matches, else as the first. -/
inductive InTurn (first : Nat → Outcome β → Prop) (second : β → Nat → Outcome α → Prop)
    (offset : Nat) : Outcome α → Prop where
  | onward {value : β} {middle : Nat} {outcome : Outcome α}
    (matched : first offset (.matched value middle)) (then_ : second value middle outcome) :
    InTurn first second offset outcome
  | failed {failure : Failure} (failed : first offset (.failed failure)) :
    InTurn first second offset (.failed failure)
  | faulted {fault : Fault} (faulted : first offset (.faulted fault)) :
    InTurn first second offset (.faulted fault)

section Lists

variable (separators : Nat → Outcome β → Prop) (items : Nat → Outcome α → Prop)

/-- Items in a row, with a separator between any two of them. -/
inductive Separated : Nat → List α → Nat → Prop where
  | single {offset next : Nat} {value : α} (item : items offset (.matched value next)) :
    Separated offset [value] next
  | cons {offset stop start next : Nat} {value : α} {mark : β} {values : List α}
    (item : items offset (.matched value stop))
    (separator : separators stop (.matched mark start)) (more : Separated start values next) :
    Separated offset (value :: values) next

/-- What comes next is no separator, or one that no item follows. -/
def Closes (offset : Nat) (failure : Failure) : Prop :=
  separators offset (.failed failure) ∨
    ∃ mark start, separators offset (.matched mark start) ∧ items start (.failed failure)

end Lists

section InTurn

variable {first : Nat → Outcome β → Prop} {second : β → Nat → Outcome α → Prop} {offset next : Nat}

theorem inTurn_matched_iff {value : α} :
    InTurn first second offset (.matched value next) ↔
      ∃ a middle, first offset (.matched a middle) ∧ second a middle (.matched value next) := by
  constructor
  · intro h
    cases h with
    | onward matched then_ => exact ⟨_, _, matched, then_⟩
  · rintro ⟨a, middle, matched, then_⟩
    exact .onward matched then_

theorem inTurn_failed_iff {failure : Failure} :
    InTurn first second offset (.failed failure) ↔
      first offset (.failed failure) ∨
        ∃ a middle, first offset (.matched a middle) ∧ second a middle (.failed failure) := by
  constructor
  · intro h
    cases h with
    | onward matched then_ => exact .inr ⟨_, _, matched, then_⟩
    | failed failed => exact .inl failed
  · rintro (failed | ⟨a, middle, matched, then_⟩)
    · exact .failed failed
    · exact .onward matched then_

variable {separators : Nat → Outcome β → Prop} {items : Nat → Outcome α → Prop} {values : List α}

theorem separated_iff_chain :
    Separated separators items offset values next ↔
      ∃ value rest middle, values = value :: rest ∧ items offset (.matched value middle) ∧
        Chain (InTurn separators fun _ => items) middle rest next := by
  constructor
  · intro h
    induction h with
    | @single offset next value item => exact ⟨value, [], next, rfl, item, .stop next⟩
    | @cons offset stop start next value mark values item separator more ih =>
      obtain ⟨value', rest, middle, rfl, hitem, hchain⟩ := ih
      exact ⟨value, value' :: rest, stop, rfl, item, .go (.onward separator hitem) hchain⟩
  · rintro ⟨value, rest, middle, rfl, hitem, hchain⟩
    induction hchain generalizing offset value with
    | stop middle => exact .single hitem
    | go first more ih =>
      obtain ⟨mark, start, hseparator, hnext⟩ := inTurn_matched_iff.mp first
      exact .cons hitem hseparator (ih _ hnext)

theorem closes_iff_inTurn {failure : Failure} :
    Closes separators items offset failure ↔
      InTurn separators (fun _ => items) offset (.failed failure) :=
  inTurn_failed_iff.symm

end InTurn

namespace Action

variable {grammar : Grammar S} {action : Action S α} {offset next : Nat} {memory : Memory S}

/-- Optional rounds without end match only where a last round fails, and end with what it shows. -/
theorem exists_last_round (hkeeps : action.Keeps grammar) {count : Nat} {run : Run S (List α)}
    (hcells : memory.cells.Faithful grammar)
    (hrun : action.optional unfinished count offset memory = some run) {values : List α}
    (hmatched : run.outcome = .matched values next) :
    ∃ middle round failure before, middle.cells.Faithful grammar ∧
      action next middle = some round ∧ round.outcome = .failed failure ∧
        run.events = before ++ round.events := by
  induction count generalizing offset memory run values with
  | zero => cases hrun
  | succ count ih =>
    obtain ⟨first, hfirst, hends⟩ := optional_succ_eq_some_iff.mp hrun
    rcases hends with ⟨value, stop, rest, -, hmore, rfl⟩ | ⟨failure, hfailed, rfl⟩ | ⟨fault, -, rfl⟩
    · obtain ⟨others, hrest, -⟩ := Outcome.map_eq_matched_iff.mp hmatched
      obtain ⟨middle, round, failure, before, hmiddle, hround, hfailed, hevents⟩ :=
        ih (hkeeps hcells hfirst) hmore hrest
      refine ⟨middle, round, failure, first.events ++ before, hmiddle, hround, hfailed, ?_⟩
      simp [Run.map, Run.after, hevents]
    · cases hmatched
      exact ⟨memory, first, failure, [], hcells, hfirst, hfailed, rfl⟩
    · cases hmatched

end Action

namespace Parser

variable {grammar : Grammar S} {input : Text} {p : Parser S α} {fuel offset : Nat}
  {memory : Memory S}

section Answers

theorem answers_congr {p' : Parser S α}
    (h : ∀ fuel, p.runWithin grammar input fuel = p'.runWithin grammar input fuel) :
    p.Answers grammar input = p'.Answers grammar input := by
  unfold Answers
  simp only [h]

theorem IsPlain.outcome_eq_iff (hg : grammar.IsPlain) (hp : p.IsPlain) {run : Run S α}
    (hcells : memory.cells.Faithful grammar)
    (hrun : p.runWithin grammar input fuel offset memory = some run) {outcome : Outcome α} :
    run.outcome = outcome ↔ p.Answers grammar input offset outcome := by
  have hanswer := answers_of_run hcells hrun
  constructor
  · rintro rfl
    exact hanswer
  · exact hp.isSteady hg offset _ _ hanswer

theorem answers_bind (hg : grammar.IsPlain) (p : Parser S α) {f : α → Parser S β}
    (hf : ∀ value, (f value).IsPlain) :
    (p.bind f).Answers grammar input =
      InTurn (p.Answers grammar input) fun value => (f value).Answers grammar input := by
  funext offset outcome
  apply propext
  constructor
  · rintro ⟨fuel, memory, run, hcells, hrun, rfl⟩
    rw [runWithin_bind] at hrun
    obtain ⟨first, hfirst, hends⟩ := Option.bind_eq_some_iff.mp hrun
    have hanswer := answers_of_run hcells hfirst
    have hleft := (faithful_and_tracker_of_run hcells hfirst).1
    rcases Run.andThen_eq_some_iff.mp hends with
      ⟨value, middle, rest, hmatched, hrest, rfl⟩ | ⟨failure, hfailed, rfl⟩ | ⟨fault, hfaulted, rfl⟩
    · have hsecond := answers_of_run hleft hrest
      exact .onward (hmatched ▸ hanswer) hsecond
    · exact .failed (hfailed ▸ hanswer)
    · exact .faulted (hfaulted ▸ hanswer)
  · intro h
    cases h with
    | @onward value middle _ hmatched hsecond =>
      obtain ⟨fuel, memory, run, hcells, hrun, hout⟩ := hmatched
      obtain ⟨enough, hall⟩ := hsecond.exists_run hg (hf value)
      have hlong := runWithin_mono (Nat.le_max_left fuel enough) hrun
      obtain ⟨rest, hrest, rfl⟩ := hall (max fuel enough) (Nat.le_max_right fuel enough) run.memory
        (faithful_and_tracker_of_run hcells hlong).1
      refine ⟨max fuel enough, memory, rest.after run.events, hcells, ?_, rfl⟩
      rw [runWithin_bind, Action.bind_of_matched hlong hout, hrest, Option.map_some]
    | failed hfailed =>
      obtain ⟨fuel, memory, run, hcells, hrun, hout⟩ := hfailed
      refine ⟨fuel, memory, ⟨.failed _, run.events, run.memory⟩, hcells, ?_, rfl⟩
      rw [runWithin_bind]
      exact Action.bind_of_failed hrun hout
    | faulted hfaulted =>
      obtain ⟨fuel, memory, run, hcells, hrun, hout⟩ := hfaulted
      refine ⟨fuel, memory, ⟨.faulted _, run.events, run.memory⟩, hcells, ?_, rfl⟩
      rw [runWithin_bind]
      exact Action.bind_of_faulted hrun hout

theorem answers_map_iff {f : α → β} {outcome : Outcome β} :
    (p.map f).Answers grammar input offset outcome ↔
      ∃ inner, p.Answers grammar input offset inner ∧ inner.map f = outcome := by
  constructor
  · rintro ⟨fuel, memory, run, hcells, hrun, rfl⟩
    rw [runWithin_map] at hrun
    obtain ⟨inner, hinner, rfl⟩ := Option.map_eq_some_iff.mp hrun
    exact ⟨inner.outcome, answers_of_run hcells hinner, rfl⟩
  · rintro ⟨_, ⟨fuel, memory, run, hcells, hrun, rfl⟩, rfl⟩
    refine ⟨fuel, memory, run.map f, hcells, ?_, rfl⟩
    rw [runWithin_map]
    exact Option.map_eq_some_iff.mpr ⟨run, hrun, rfl⟩

/-- A chain of matches and an answer that is no match make a finished run of the rounds. -/
theorem exists_run_optional (hg : grammar.IsPlain) (hp : p.IsPlain) {values : List α}
    {stop : Nat} {round : Outcome α} (hchain : Chain (p.Answers grammar input) offset values stop)
    (hround : p.Answers grammar input stop round)
    (hends : ∀ value next, round ≠ .matched value next) :
    ∃ enough, ∀ fuel, enough ≤ fuel → ∀ count, values.length < count →
      ∀ memory : Memory S, memory.cells.Faithful grammar →
        ∃ run, (p.runWithin grammar input fuel).optional .unfinished count offset memory =
          some run := by
  induction hchain with
  | stop offset =>
    obtain ⟨enough, hall⟩ := hround.exists_run hg hp
    refine ⟨enough, fun fuel hfuel count hcount memory hcells => ?_⟩
    obtain ⟨count, rfl⟩ : ∃ less, count = less + 1 := Nat.exists_eq_add_one.mpr hcount
    obtain ⟨run, hrun, hout⟩ := hall fuel hfuel memory hcells
    cases round with
    | matched value next => exact absurd rfl (hends value next)
    | failed failure => exact ⟨_, Action.optional_of_failed hrun hout count⟩
    | faulted fault => exact ⟨_, Action.optional_of_faulted hrun hout count⟩
  | go first more ih =>
    obtain ⟨enough, hall⟩ := first.exists_run hg hp
    obtain ⟨enough', hall'⟩ := ih hround
    refine ⟨max enough enough', fun fuel hfuel count hcount memory hcells => ?_⟩
    obtain ⟨count, rfl⟩ : ∃ less, count = less + 1 := Nat.exists_eq_add_one.mpr (by omega)
    obtain ⟨run, hrun, hout⟩ := hall fuel (by omega) memory hcells
    obtain ⟨rest, hrest⟩ := hall' fuel (by omega) count (Nat.lt_of_succ_lt_succ hcount) run.memory
      (faithful_and_tracker_of_run hcells hrun).1
    exact ⟨_, Action.optional_succ_eq_some_iff.mpr
      ⟨run, hrun, .inl ⟨_, _, rest, hout, hrest, rfl⟩⟩⟩

theorem exists_repeats_of_many {run : Run S (List α)} (hcells : memory.cells.Faithful grammar)
    (hrun : p.many.runWithin grammar input fuel offset memory = some run) :
    ∃ rounds, Repeats (p.Answers grammar input) (.atLeast 0) offset run.outcome rounds := by
  obtain ⟨-, rounds, -, -, hrepeats⟩ :=
    repeats_runWithin (fun _ => True) (fun _ _ _ _ _ _ => trivial) (.atLeast 0) fuel hcells hrun
  exact ⟨rounds.length, hrepeats⟩

theorem answers_many_iff (hg : grammar.IsPlain) (hp : p.IsPlain) {outcome : Outcome (List α)} :
    p.many.Answers grammar input offset outcome ↔
      ∃ rounds, Repeats (p.Answers grammar input) (.atLeast 0) offset outcome rounds := by
  constructor
  · rintro ⟨fuel, memory, run, hcells, hrun, rfl⟩
    exact exists_repeats_of_many hcells hrun
  · rintro ⟨rounds, hrepeats⟩
    obtain ⟨values, stop, hchain, -, ⟨hmost, -⟩ | ⟨-, -, round, hround, hends⟩⟩ :=
      hrepeats.exists_stop
    · cases hmost
    · obtain ⟨enough, hall⟩ :=
        exists_run_optional hg hp hchain hround fun _ _ => hends.ne_matched
      have hcells : (Memory.fresh .empty : Memory S).cells.Faithful grammar := Cells.faithful_empty
      let fuel := max enough values.length + 1
      obtain ⟨run, hrun⟩ := hall (fuel + 1) (by omega) fuel (by omega) _ hcells
      rw [← runWithin_many] at hrun
      -- It has finished, so it has ended as the rounds say.
      obtain ⟨rounds', hrepeats'⟩ := exists_repeats_of_many hcells hrun
      exact ⟨fuel + 1, _, run, hcells, hrun,
        (hrepeats'.unique (hp.isSteady hg) hrepeats).1⟩

theorem answers_many_matched_iff (hg : grammar.IsPlain) (hp : p.IsPlain) {values : List α}
    {next : Nat} :
    p.many.Answers grammar input offset (.matched values next) ↔
      Chain (p.Answers grammar input) offset values next ∧
        ∃ failure, p.Answers grammar input next (.failed failure) := by
  rw [answers_many_iff hg hp]
  simp only [Repeats.matched_iff]
  constructor
  · rintro ⟨rounds, hchain, -, -, ⟨hmost, -⟩ | ⟨-, -, hfails⟩⟩
    · cases hmost
    · exact ⟨hchain, hfails⟩
  · rintro ⟨hchain, hfails⟩
    refine ⟨values.length + 1, hchain, Nat.zero_le _, ?_, .inr ⟨?_, rfl, hfails⟩⟩
    · rintro _ ⟨⟩
    · rintro ⟨⟩

theorem not_answers_many_failed (failure : Failure) :
    ¬ p.many.Answers grammar input offset (.failed failure) := by
  rintro ⟨fuel, memory, run, -, hrun, hfailed⟩
  cases fuel with
  | zero => cases hrun
  | succ fuel =>
    rw [runWithin_many] at hrun
    exact Action.optional_unfinished_ne_failed hrun failure hfailed

end Answers

section Lists

variable {separator : Parser S β} {values : List α} {next : Nat}

/-- An item, and its value in front of those behind it. -/
theorem runWithin_sepBy1 (p : Parser S α) (separator : Parser S β) (fuel : Nat) :
    (p.sepBy1 separator).runWithin grammar input fuel =
      (p.bind fun first => (separator.andThen p).many.map (first :: ·)).runWithin grammar input
        fuel := by
  cases fuel with
  | zero => rfl
  | succ fuel =>
    let rest := (separator.andThen p).many.runWithin grammar input (fuel + 1)
    show (((p.runWithin grammar input (fuel + 1)).bind fun first => rest.map (Prod.mk first)).map _)
      = (p.runWithin grammar input (fuel + 1)).bind fun first => rest.map (first :: ·)
    rw [Action.map_bind]
    congr 1
    funext first
    exact Action.map_map _ _ rest

theorem answers_andThen (hg : grammar.IsPlain) (separator : Parser S β) (hp : p.IsPlain) :
    (separator.andThen p).Answers grammar input =
      InTurn (separator.Answers grammar input) fun _ => p.Answers grammar input :=
  answers_bind hg separator fun _ => hp

theorem answers_sepBy1 (hg : grammar.IsPlain) (hp : p.IsPlain) (hs : separator.IsPlain) :
    (p.sepBy1 separator).Answers grammar input =
      InTurn (p.Answers grammar input) fun first =>
        ((separator.andThen p).many.map (first :: ·)).Answers grammar input := by
  rw [answers_congr (runWithin_sepBy1 p separator)]
  exact answers_bind hg p fun _ => hs.andThen hp

theorem answers_sepBy1_matched_iff (hg : grammar.IsPlain) (hp : p.IsPlain)
    (hs : separator.IsPlain) :
    (p.sepBy1 separator).Answers grammar input offset (.matched values next) ↔
      Separated (separator.Answers grammar input) (p.Answers grammar input) offset values next ∧
        ∃ failure, Closes (separator.Answers grammar input) (p.Answers grammar input) next
          failure := by
  rw [answers_sepBy1 hg hp hs, inTurn_matched_iff, separated_iff_chain]
  simp only [closes_iff_inTurn, ← answers_andThen hg separator hp]
  constructor
  · rintro ⟨value, middle, hitem, hmany⟩
    obtain ⟨inner, hanswer, hinner⟩ := answers_map_iff.mp hmany
    obtain ⟨rest, rfl, rfl⟩ := Outcome.map_eq_matched_iff.mp hinner
    obtain ⟨hchain, hfails⟩ := (answers_many_matched_iff hg (hs.andThen hp)).mp hanswer
    exact ⟨⟨value, rest, middle, rfl, hitem, hchain⟩, hfails⟩
  · rintro ⟨⟨value, rest, middle, rfl, hitem, hchain⟩, hfails⟩
    have hanswer := (answers_many_matched_iff hg (hs.andThen hp)).mpr ⟨hchain, hfails⟩
    exact ⟨value, middle, hitem, answers_map_iff.mpr ⟨_, hanswer, rfl⟩⟩

theorem answers_sepBy1_failed_iff (hg : grammar.IsPlain) (hp : p.IsPlain) (hs : separator.IsPlain)
    {failure : Failure} :
    (p.sepBy1 separator).Answers grammar input offset (.failed failure) ↔
      p.Answers grammar input offset (.failed failure) := by
  rw [answers_sepBy1 hg hp hs, inTurn_failed_iff]
  refine or_iff_left ?_
  rintro ⟨value, middle, -, hmany⟩
  obtain ⟨inner, hanswer, hinner⟩ := answers_map_iff.mp hmany
  cases inner with
  | matched => cases hinner
  | failed failure => exact not_answers_many_failed failure hanswer
  | faulted => cases hinner

/-- The failure behind the last item is the last thing that is reported. -/
theorem getLast?_reports_sepBy1 (hg : grammar.IsPlain) (hp : p.IsPlain) (hs : separator.IsPlain)
    (hcells : memory.cells.Faithful grammar) {run : Run S (List α)}
    (hrun : (p.sepBy1 separator).runWithin grammar input fuel offset memory = some run)
    (hmatched : run.outcome = .matched values next) {failure : Failure}
    (hcloses : Closes (separator.Answers grammar input) (p.Answers grammar input) next failure) :
    (Event.reports run.events).getLast? = some failure := by
  cases fuel with
  | zero => cases hrun
  | succ fuel =>
    have hpair : (separator.andThen p).IsPlain := hs.andThen hp
    rw [runWithin_sepBy1, runWithin_bind] at hrun
    obtain ⟨first, hfirst, hends⟩ := Option.bind_eq_some_iff.mp hrun
    have hleft := (faithful_and_tracker_of_run hcells hfirst).1
    rcases Run.andThen_eq_some_iff.mp hends with
      ⟨value, middle, rest, -, hrest, rfl⟩ | ⟨_, -, rfl⟩ | ⟨_, -, rfl⟩
    · rw [runWithin_map] at hrest
      obtain ⟨others, hothers, rfl⟩ := Option.map_eq_some_iff.mp hrest
      obtain ⟨_, hout, -⟩ := Outcome.map_eq_matched_iff.mp hmatched
      rw [runWithin_many] at hothers
      obtain ⟨memory', round, last, before, hcells', hround, hfailed, hevents⟩ :=
        Action.exists_last_round (keeps_runWithin (separator.andThen p) (fuel + 1)) hleft hothers
          hout
      have hlast : last = failure := by
        rw [closes_iff_inTurn, ← answers_andThen hg separator hp,
          ← hpair.outcome_eq_iff hg hcells' hround, hfailed] at hcloses
        exact Outcome.failed.inj hcloses
      have hreported := getLast?_reports_of_failed hg hpair hcells' hround hfailed
      simp [Run.map, Run.after, hevents, hreported, hlast]
    · cases hmatched
    · cases hmatched

theorem rel_sepBy (hg : grammar.IsPlain) (hp : p.IsPlain) (hs : separator.IsPlain)
    (hcells : memory.cells.Faithful grammar) (fuel : Nat) :
    Option.Rel
      (fun run run' => (∀ failure, run'.outcome ≠ .failed failure) ∧
        ((∀ failure, ¬ p.Answers grammar input offset (.failed failure)) → run' = run) ∧
        ∀ failure, p.Answers grammar input offset (.failed failure) →
          run' = { run with outcome := .matched [] offset })
      ((p.sepBy1 separator).runWithin grammar input fuel offset memory)
      ((p.sepBy separator).runWithin grammar input fuel offset memory) := by
  have hlist : (p.sepBy1 separator).IsPlain := hp.sepBy1 hs
  cases fuel with
  | zero => exact .none
  | succ fuel =>
    unfold sepBy
    rw [runWithin_orElse]
    cases hrun : (p.sepBy1 separator).runWithin grammar input (fuel + 1) offset memory with
    | none =>
      unfold Action.orElse
      rw [hrun]
      exact .none
    | some run =>
      have hfails : ∀ failure, run.outcome = .failed failure ↔
          p.Answers grammar input offset (.failed failure) := by
        intro failure
        rw [hlist.outcome_eq_iff hg hcells hrun]
        exact answers_sepBy1_failed_iff hg hp hs
      by_cases hends : ∃ failure, run.outcome = .failed failure
      · obtain ⟨failure, hfailed⟩ := hends
        let empty : Run S (List α) := { run with outcome := .matched [] offset }
        have hempty : ((always []).runWithin grammar input (fuel + 1) offset run.memory).map
            (Run.after run.events) = some empty := by
          show some (Run.after run.events (.quiet run.memory (.matched [] offset))) = some empty
          simp [empty, Run.quiet, Run.after]
        rw [Action.orElse_of_failed hrun hfailed, hempty]
        refine .some ⟨by simp, fun hnone => ?_, fun _ _ => rfl⟩
        exact absurd ((hfails failure).mp hfailed) (hnone failure)
      · have hends := not_exists.mp hends
        rw [Action.orElse_of_not_failed hrun hends]
        refine .some ⟨hends, fun _ => rfl, fun failure hfailed => ?_⟩
        exact absurd ((hfails failure).mpr hfailed) (hends failure)

/-- A finished run of a separated list matches exactly the items up to one behind which no separator
with another item follows, and reports last why none follows; it fails exactly if there is no first
item. If there need not be one, the list is empty then. -/
theorem sepBy_iff_separated (hg : grammar.IsPlain) (hp : p.IsPlain) (hs : separator.IsPlain)
    (input : Text) (offset : Nat) (hcells : memory.cells.Faithful grammar) :
    (∀ fuel run, (p.sepBy1 separator).runWithin grammar input fuel offset memory = some run →
      (∀ values next, run.outcome = .matched values next ↔
        Separated (separator.Answers grammar input) (p.Answers grammar input) offset values next ∧
          ∃ failure, Closes (separator.Answers grammar input) (p.Answers grammar input) next
            failure) ∧
      (∀ values next failure, run.outcome = .matched values next →
        Closes (separator.Answers grammar input) (p.Answers grammar input) next failure →
          (Event.reports run.events).getLast? = some failure) ∧
      ∀ failure, run.outcome = .failed failure ↔
        p.Answers grammar input offset (.failed failure)) ∧
    (∀ values next failure,
      Separated (separator.Answers grammar input) (p.Answers grammar input) offset values next →
      Closes (separator.Answers grammar input) (p.Answers grammar input) next failure →
        ∃ fuel run, (p.sepBy1 separator).runWithin grammar input fuel offset memory = some run ∧
          run.outcome = .matched values next) ∧
    ∀ fuel, Option.Rel
      (fun run run' => (∀ failure, run'.outcome ≠ .failed failure) ∧
        ((∀ failure, ¬ p.Answers grammar input offset (.failed failure)) → run' = run) ∧
        ∀ failure, p.Answers grammar input offset (.failed failure) →
          run' = { run with outcome := .matched [] offset })
      ((p.sepBy1 separator).runWithin grammar input fuel offset memory)
      ((p.sepBy separator).runWithin grammar input fuel offset memory) := by
  have hlist : (p.sepBy1 separator).IsPlain := hp.sepBy1 hs
  refine ⟨fun fuel run hrun => ⟨fun values next => ?_, fun values next failure hmatched => ?_,
    fun failure => ?_⟩, fun values next failure hseparated hcloses => ?_,
    rel_sepBy hg hp hs hcells⟩
  · rw [hlist.outcome_eq_iff hg hcells hrun]
    exact answers_sepBy1_matched_iff hg hp hs
  · exact getLast?_reports_sepBy1 hg hp hs hcells hrun hmatched
  · rw [hlist.outcome_eq_iff hg hcells hrun]
    exact answers_sepBy1_failed_iff hg hp hs
  · have hanswer := (answers_sepBy1_matched_iff hg hp hs).mpr ⟨hseparated, failure, hcloses⟩
    obtain ⟨enough, hall⟩ := hanswer.exists_run hg hlist
    exact ⟨enough, hall enough (Nat.le_refl enough) memory hcells⟩

end Lists

end Parser

/-- Behind the second nest, a separator and an opening bracket are read and given back. -/
theorem Nested.inParentheses_separated :
    (∃ run, (inParentheses.sepBy1 (.literal "é")).runWithin Nested.grammar "()é(())é(".toList 9 0
        (.fresh .empty) = some run ∧
      run.outcome = .matched [1, 2] 8 ∧
      (Event.reports run.events).getLast? = some ⟨11, "')'"⟩ ∧
      Separated ((Parser.literal "é").Answers Nested.grammar "()é(())é(".toList)
        (inParentheses.Answers Nested.grammar "()é(())é(".toList) 0 [1, 2] 8 ∧
      Closes ((Parser.literal "é").Answers Nested.grammar "()é(())é(".toList)
        (inParentheses.Answers Nested.grammar "()é(())é(".toList) 8 ⟨11, "')'"⟩) ∧
    ∃ run, (inParentheses.sepBy (.literal "é")).runWithin Nested.grammar "()é(())é(".toList 9 2
      (.fresh .empty) = some run ∧ run.outcome = .matched [] 2 := by
  have hmatches : ((inParentheses.sepBy1 (.literal "é")).runWithin Nested.grammar
      "()é(())é(".toList 9 0 (.fresh .empty)).map
        (fun run => (run.outcome, (Event.reports run.events).getLast?)) =
          some (.matched [1, 2] 8, some ⟨11, "')'"⟩) := by
    decide +kernel
  have hfails : ((inParentheses.sepBy1 (.literal "é")).runWithin Nested.grammar
      "()é(())é(".toList 9 2 (.fresh .empty)).map (·.outcome) = some (.failed ⟨2, "'('"⟩) := by
    decide +kernel
  have hcells : (Memory.fresh .empty : Memory Nested).cells.Faithful Nested.grammar :=
    Cells.faithful_empty
  have hseparator : (Parser.literal "é" : Parser Nested String).IsPlain := trivial
  obtain ⟨run, hrun, hends⟩ := Option.map_eq_some_iff.mp hmatches
  obtain ⟨hmatched, hlast⟩ := Prod.mk.inj hends
  obtain ⟨none, hnone, hfailed⟩ := Option.map_eq_some_iff.mp hfails
  obtain ⟨hlist, -, -⟩ := Parser.sepBy_iff_separated isPlain_grammar isPlain_inParentheses
    hseparator "()é(())é(".toList 0 hcells
  obtain ⟨hlist', -, hsepBy⟩ := Parser.sepBy_iff_separated isPlain_grammar isPlain_inParentheses
    hseparator "()é(())é(".toList 2 hcells
  obtain ⟨hiff, hreports, -⟩ := hlist 9 run hrun
  obtain ⟨hseparated, failure, hcloses⟩ := (hiff [1, 2] 8).mp hmatched
  obtain rfl : failure = ⟨11, "')'"⟩ :=
    Option.some.inj ((hreports _ _ failure hmatched hcloses).symm.trans hlast)
  refine ⟨⟨run, hrun, hmatched, hlast, hseparated, hcloses⟩, ?_⟩
  obtain ⟨-, -, hfirst⟩ := hlist' 9 none hnone
  have hempty := hsepBy 9
  rw [hnone] at hempty
  generalize hrun' : (inParentheses.sepBy (.literal "é")).runWithin Nested.grammar
    "()é(())é(".toList 9 2 (.fresh .empty) = result at hempty
  cases hempty with
  | some hsame =>
    refine ⟨_, rfl, ?_⟩
    rw [hsame.2.2 _ ((hfirst _).mp hfailed)]

end Descent
