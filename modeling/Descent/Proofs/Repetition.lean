import Descent.Proofs.Chain
import Descent.Proofs.Fuel
import Descent.Proofs.Nested
import Descent.Proofs.Noninterference
import Descent.Proofs.Sequencing

/-!
# What a repetition does

The rounds of a repetition are runs of its parser, one after another, and make a chain of matches.
If the answers of the parser depend on the offset alone, that tells exactly when the repetition
matches or fails, with which values, where, and how often the parser is run.
-/

namespace Descent

variable {S : Signature} {α : Type}

/-- The run of a repetition: its rounds show what `shown` allows, one after another. -/
def Run.Repeats (answers : Nat → Outcome α → Prop) (shown : List (Event S.Rule) → Prop)
    (bounds : Bounds) (offset : Nat) (run : Run S (List α)) : Prop :=
  ∃ rounds : List (List (Event S.Rule)), (∀ events ∈ rounds, shown events) ∧
    run.events = rounds.flatten ∧ Descent.Repeats answers bounds offset run.outcome rounds.length

namespace Run.Repeats

variable {answers : Nat → Outcome α → Prop} {shown : List (Event S.Rule) → Prop}
  {bounds bounds' : Bounds} {offset middle next : Nat} {events : List (Event S.Rule)}
  {memory : Memory S} {run : Run S (List α)} {values : List α}

theorem full (h : bounds.most = some 0) :
    (quiet memory (.matched [] offset) : Run S (List α)).Repeats answers shown bounds offset :=
  ⟨[], by simp, rfl, .full (.stop offset) h⟩

theorem last {round : Outcome α} {outcome : Outcome (List α)} (hround : answers offset round)
    (hshown : shown events) (hroom : ∀ most ∈ bounds.most, 0 < most)
    (hends : bounds.Ends [] offset round outcome) :
    ({ outcome, events, memory } : Run S (List α)).Repeats answers shown bounds offset :=
  ⟨[events], by simpa, by simp, .last (.stop offset) hroom hround hends⟩

/-- One more round in front, which matches. -/
theorem cons {value : α} (h : run.Repeats answers shown bounds' middle)
    (hround : answers offset (.matched value middle)) (hshown : shown events)
    (hleast : bounds'.least = bounds.least - 1) (hmost : bounds.most = bounds'.most.map (· + 1)) :
    ((run.map (value :: ·)).after events).Repeats answers shown bounds offset := by
  obtain ⟨rounds, hrounds, hevents, hrest⟩ := h
  refine ⟨events :: rounds, by simpa using ⟨hshown, hrounds⟩, ?_, ?_⟩
  · simp [Run.map, Run.after, hevents]
  · have hall := hrest.after (.go hround (.stop middle)) hleast hmost
    rw [List.length_cons, Nat.add_comm]
    exact hall

end Run.Repeats

namespace Action

/-- Every finished run from faithful cells leaves such cells, gives one of the `answers` and shows
what `shown` allows. -/
def Answers (grammar : Grammar S) (answers : Nat → Outcome α → Prop)
    (shown : List (Event S.Rule) → Prop) (action : Action S α) : Prop :=
  ∀ ⦃offset : Nat⦄ ⦃memory : Memory S⦄ ⦃run : Run S α⦄, memory.cells.Faithful grammar →
    action offset memory = some run →
      run.memory.cells.Faithful grammar ∧ answers offset run.outcome ∧ shown run.events

/-- Every finished run from faithful cells leaves such cells and is that of a repetition. -/
def Repeats (grammar : Grammar S) (answers : Nat → Outcome α → Prop)
    (shown : List (Event S.Rule) → Prop) (bounds : Bounds) (action : Action S (List α)) : Prop :=
  ∀ ⦃offset : Nat⦄ ⦃memory : Memory S⦄ ⦃run : Run S (List α)⦄, memory.cells.Faithful grammar →
    action offset memory = some run →
      run.memory.cells.Faithful grammar ∧ run.Repeats answers shown bounds offset

variable {grammar : Grammar S} {answers : Nat → Outcome α → Prop}
  {shown : List (Event S.Rule) → Prop} {action : Action S α}

theorem repeats_yield {bounds : Bounds} (h : bounds.most = some 0) :
    (yield [] : Action S (List α)).Repeats grammar answers shown bounds := by
  rintro offset memory run hcells ⟨⟩
  exact ⟨hcells, .full h⟩

theorem repeats_unfinished {bounds : Bounds} :
    (unfinished : Action S (List α)).Repeats grammar answers shown bounds := by
  rintro offset memory run hcells ⟨⟩

theorem Answers.required (ha : action.Answers grammar answers shown) (count : Nat) :
    (action.required count).Repeats grammar answers shown (.exactly count) := by
  induction count with
  | zero => exact repeats_yield rfl
  | succ count ih =>
    intro offset memory result hcells hresult
    have hroom : ∀ most ∈ (Bounds.exactly (count + 1)).most, 0 < most := by
      rintro _ ⟨⟩
      exact Nat.succ_pos count
    obtain ⟨run, hrun, hrest⟩ := Option.bind_eq_some_iff.mp hresult
    obtain ⟨hleft, hanswer, hshown⟩ := ha hcells hrun
    rcases Run.andThen_eq_some_iff.mp hrest with
      ⟨value, middle, rest, hmatched, hmore, rfl⟩ | ⟨failure, hfailed, rfl⟩ | ⟨fault, hfaulted, rfl⟩
    · obtain ⟨others, hothers, rfl⟩ := Option.map_eq_some_iff.mp hmore
      obtain ⟨hfaithful, hrepeats⟩ := ih hleft hothers
      rw [hmatched] at hanswer
      exact ⟨hfaithful, hrepeats.cons hanswer hshown rfl rfl⟩
    · rw [hfailed] at hanswer
      exact ⟨hleft, .last hanswer hshown hroom (.missed failure (Nat.succ_pos count))⟩
    · rw [hfaulted] at hanswer
      exact ⟨hleft, .last hanswer hshown hroom (.broken fault)⟩

/-- Optional rounds, of which there may be `count` and then as many as the last action makes. -/
theorem Answers.optional {last : Action S (List α)} (ha : action.Answers grammar answers shown)
    (bounds : Nat → Bounds) (hleast : ∀ count, (bounds count).least = 0)
    (hmost : ∀ count, (bounds (count + 1)).most = (bounds count).most.map (· + 1))
    (hlast : last.Repeats grammar answers shown (bounds 0)) (count : Nat) :
    (action.optional last count).Repeats grammar answers shown (bounds count) := by
  induction count with
  | zero => exact hlast
  | succ count ih =>
    intro offset memory result hcells hresult
    have hroom : ∀ most ∈ (bounds (count + 1)).most, 0 < most := by
      intro most hm
      rw [hmost] at hm
      obtain ⟨most', -, rfl⟩ := Option.map_eq_some_iff.mp hm
      exact Nat.succ_pos most'
    obtain ⟨run, hrun, hends⟩ := optional_succ_eq_some_iff.mp hresult
    obtain ⟨hleft, hanswer, hshown⟩ := ha hcells hrun
    rcases hends with ⟨value, middle, rest, hmatched, hmore, rfl⟩ | ⟨failure, hfailed, rfl⟩ |
      ⟨fault, hfaulted, rfl⟩
    · rw [hmatched] at hanswer
      obtain ⟨hfaithful, hrepeats⟩ := ih hleft hmore
      have hnone : (bounds count).least = (bounds (count + 1)).least - 1 := by
        rw [hleast, hleast]
      exact ⟨hfaithful, hrepeats.cons hanswer hshown hnone (hmost count)⟩
    · rw [hfailed] at hanswer
      refine ⟨hleft, .last hanswer hshown hroom (.ended failure ?_)⟩
      exact Nat.le_of_eq (hleast (count + 1))
    · rw [hfaulted] at hanswer
      exact ⟨hleft, .last hanswer hshown hroom (.broken fault)⟩

/-- The optional rounds are a repetition in what the bounds leave room for. -/
theorem Answers.surplus (ha : action.Answers grammar answers shown) (bounds : Bounds)
    (fuel : Nat) :
    ∃ bounds' : Bounds, bounds'.least = 0 ∧ bounds.most = bounds'.most.map (· + bounds.least) ∧
      (action.surplus bounds fuel).Repeats grammar answers shown bounds' := by
  unfold Action.surplus
  cases hmost : bounds.most with
  | none =>
    refine ⟨.atLeast 0, rfl, rfl, ?_⟩
    exact ha.optional (fun _ => .atLeast 0) (fun _ => rfl) (fun _ => rfl) repeats_unfinished fuel
  | some most =>
    refine ⟨.atMost (most - bounds.least), rfl, ?_, ?_⟩
    · have hordered := bounds.ordered most hmost
      simp only [Bounds.atMost, Option.map_some, Nat.sub_add_cancel hordered]
    · exact ha.optional .atMost (fun _ => rfl) (fun _ => rfl) (repeats_yield rfl)
        (most - bounds.least)

theorem Answers.times (ha : action.Answers grammar answers shown) (bounds : Bounds) (fuel : Nat) :
    (action.times bounds fuel).Repeats grammar answers shown bounds := by
  rw [times_eq]
  intro offset memory result hcells hresult
  obtain ⟨run, hrun, hrest⟩ := Option.bind_eq_some_iff.mp hresult
  obtain ⟨hleft, rounds, hrounds, hevents, hrepeats⟩ := ha.required bounds.least hcells hrun
  rcases Run.andThen_eq_some_iff.mp hrest with
    ⟨values, middle, rest, hmatched, hmore, rfl⟩ | ⟨failure, hfailed, rfl⟩ | ⟨fault, hfaulted, rfl⟩
  · -- The chain of the required rounds goes on in that of the optional ones.
    rw [hmatched] at hrepeats
    obtain ⟨hchain, hlength, hcount⟩ := hrepeats.exactly
    obtain ⟨others, hothers, rfl⟩ := Option.map_eq_some_iff.mp hmore
    obtain ⟨bounds', hleast, hmost, hoptional⟩ := ha.surplus bounds fuel
    obtain ⟨hfaithful, rounds', hrounds', hevents', hrepeats'⟩ := hoptional hleft hothers
    refine ⟨hfaithful, rounds ++ rounds', ?_, ?_, ?_⟩
    · intro events hmem
      exact (List.mem_append.mp hmem).elim (hrounds events) (hrounds' events)
    · simp [Run.map, Run.after, hevents, hevents']
    · rw [← hlength] at hmost
      have hall := hrepeats'.after hchain (by omega) hmost
      rw [List.length_append, hcount, ← hlength]
      exact hall
  · rw [hfailed] at hrepeats
    exact ⟨hleft, rounds, hrounds, hevents, hrepeats.of_exactly (by simp)⟩
  · rw [hfaulted] at hrepeats
    exact ⟨hleft, rounds, hrounds, hevents, hrepeats.of_exactly (by simp)⟩

end Action

namespace Event

variable {Rule : Type}

theorem entries_flatten {name : String} {rounds : List (List (Event Rule))}
    (h : ∀ events ∈ rounds, entries name events = 1) :
    entries name rounds.flatten = rounds.length := by
  induction rounds with
  | nil => rfl
  | cons events rounds ih =>
    rw [List.forall_mem_cons] at h
    rw [List.flatten_cons, entries_append, h.1, ih h.2, List.length_cons, Nat.add_comm]

end Event

namespace Parser

variable {grammar : Grammar S} {input : Text} {p : Parser S α}

/-- How a run of the parser at the offset can end, whatever came before. -/
def Answers (grammar : Grammar S) (input : Text) (p : Parser S α) (offset : Nat)
    (outcome : Outcome α) : Prop :=
  ∃ fuel memory run, memory.cells.Faithful grammar ∧
    p.runWithin grammar input fuel offset memory = some run ∧ run.outcome = outcome

/-- On this input the answers depend on the offset alone. -/
def IsSteady (grammar : Grammar S) (input : Text) (p : Parser S α) : Prop :=
  ∀ offset outcome outcome', p.Answers grammar input offset outcome →
    p.Answers grammar input offset outcome' → outcome = outcome'

theorem IsPlain.isSteady (hg : grammar.IsPlain) (hp : p.IsPlain) : p.IsSteady grammar input := by
  rintro offset _ _ ⟨fuel, ⟨t, cells⟩, run, hcells, hrun, rfl⟩
    ⟨fuel', ⟨t', cells'⟩, run', hcells', hrun', rfl⟩
  -- The answers may come with different fuel and from different memories.
  have hlong := runWithin_mono (Nat.le_max_left fuel fuel') hrun
  have hlong' := runWithin_mono (Nat.le_max_right fuel fuel') hrun'
  obtain ⟨run'', hrun'', hruns⟩ :=
    simulates_runWithin hg _ hp rfl ⟨trivial, hcells, hcells'⟩ hlong
  cases hlong'.symm.trans hrun''
  exact hruns.outcomes.eq rfl

theorem repeats_runWithin (shown : List (Event S.Rule) → Prop)
    (hshown : ∀ fuel offset memory run, memory.cells.Faithful grammar →
      p.runWithin grammar input fuel offset memory = some run → shown run.events)
    (bounds : Bounds) (fuel : Nat) :
    ((p.times bounds).runWithin grammar input fuel).Repeats grammar (p.Answers grammar input) shown
      bounds := by
  cases fuel with
  | zero => exact Action.repeats_unfinished
  | succ fuel =>
    refine Action.Answers.times ?_ bounds fuel
    intro offset memory run hcells hrun
    have hround : p.runWithin grammar input (fuel + 1) offset memory = some run := hrun
    have hleft := (faithful_and_tracker_of_run hcells hround).1
    exact ⟨hleft, ⟨fuel + 1, memory, run, hcells, hrun, rfl⟩,
      hshown (fuel + 1) offset memory run hcells hrun⟩

/-- No run of the parser enters a probe of this name. -/
def NeverEnters (grammar : Grammar S) (input : Text) (name : String) (p : Parser S α) : Prop :=
  ∀ fuel offset memory run, memory.cells.Faithful grammar →
    p.runWithin grammar input fuel offset memory = some run → Event.entries name run.events = 0

theorem neverEnters_of_probes {name : String}
    (hg : ∀ rule, (grammar.body rule).Probes fun probe => probe ≠ name)
    (hp : p.Probes fun probe => probe ≠ name) : p.NeverEnters grammar input name := by
  intro fuel offset memory run hcells hrun
  exact ((Chronicle.unentered_records name).runWithin hg input fuel hp hrun hcells).2

theorem runWithin_probe (name : String) (p : Parser S α) (fuel offset : Nat) (memory : Memory S) :
    (Parser.probe name p).runWithin grammar input fuel offset memory =
      (p.runWithin grammar input fuel offset memory).map fun run =>
        (run.leaving name).after [.entered name offset] := by
  cases fuel <;> rfl

theorem answers_probe (name : String) :
    (Parser.probe name p).Answers grammar input = p.Answers grammar input := by
  funext offset outcome
  apply propext
  constructor
  · rintro ⟨fuel, memory, run, hcells, hrun, rfl⟩
    rw [runWithin_probe] at hrun
    obtain ⟨inner, hinner, rfl⟩ := Option.map_eq_some_iff.mp hrun
    exact ⟨fuel, memory, inner, hcells, hinner, by simp⟩
  · rintro ⟨fuel, memory, run, hcells, hrun, rfl⟩
    refine ⟨fuel, memory, (run.leaving name).after [.entered name offset], hcells, ?_, by simp⟩
    rw [runWithin_probe, hrun, Option.map_some]

theorem entries_probe {name : String} (hp : p.NeverEnters grammar input name) {fuel offset : Nat}
    {memory : Memory S} {run : Run S α} (hcells : memory.cells.Faithful grammar)
    (hrun : (Parser.probe name p).runWithin grammar input fuel offset memory = some run) :
    Event.entries name run.events = 1 := by
  rw [runWithin_probe] at hrun
  obtain ⟨inner, hinner, rfl⟩ := Option.map_eq_some_iff.mp hrun
  have hnone := hp fuel offset memory inner hcells hinner
  rw [Run.events_leaving_after, Event.entries_entered, Event.entries_append, hnone, if_pos rfl]
  cases inner.outcome <;> rfl

end Parser

namespace Coupling

/-- The same run, whatever is observed of it. -/
def unobserved (S : Signature) : Coupling S S where
  offsets := Eq
  trackers := Eq
  cells := Eq
  events _ _ := True
  events_nil := trivial
  events_append _ _ := trivial

theorem unobserved_simulates_self (action : Action S α) :
    (unobserved S).Simulates action action := by
  rintro offset _ ⟨t, cells⟩ ⟨_, _⟩ run rfl ⟨rfl, rfl⟩ hrun
  exact ⟨run, hrun, .refl_of_eq rfl run.outcome, trivial, rfl, rfl⟩

end Coupling

namespace Parser

variable {grammar : Grammar S} {input : Text} {p : Parser S α}

/-- Watching its rounds does not change how a repetition ends. -/
theorem exists_probed_times (name : String) {bounds : Bounds} {fuel offset : Nat}
    {memory : Memory S} {run : Run S (List α)}
    (hrun : (p.times bounds).runWithin grammar input fuel offset memory = some run) :
    ∃ probed, ((Parser.probe name p).times bounds).runWithin grammar input fuel offset memory =
      some probed ∧ probed.outcome = run.outcome := by
  cases fuel with
  | zero => cases hrun
  | succ fuel =>
    let action := p.action grammar input (fun _ q => runWithin grammar input fuel q) fuel
    have hround : (Coupling.unobserved S).Simulates action (action.probed name) :=
      (Coupling.unobserved_simulates_self action).probed_right (fun _ _ => trivial) name
    obtain ⟨probed, hprobed, hruns⟩ :=
      hround.times bounds (Nat.le_refl fuel) rfl ⟨rfl, rfl⟩ hrun
    exact ⟨probed, hprobed, (hruns.outcomes.eq rfl).symm⟩

/-- The probed rounds are as many as the chain has matches, and one more for the failure at its end
if there is one. -/
theorem exists_entries_times (hp : p.IsSteady grammar input) {name : String}
    (hname : p.NeverEnters grammar input name) {bounds : Bounds} {fuel offset : Nat}
    {memory : Memory S} (hcells : memory.cells.Faithful grammar) {run : Run S (List α)}
    (hrun : (p.times bounds).runWithin grammar input fuel offset memory = some run) :
    ∃ probed, ((Parser.probe name p).times bounds).runWithin grammar input fuel offset memory =
        some probed ∧ probed.outcome = run.outcome ∧
      (∀ values next, run.outcome = .matched values next →
        Event.entries name probed.events =
          if bounds.most = some values.length then values.length else values.length + 1) ∧
      ∀ failure values stop, run.outcome = .failed failure →
        Chain (p.Answers grammar input) offset values stop → values.length < bounds.least →
          p.Answers grammar input stop (.failed failure) →
            Event.entries name probed.events = values.length + 1 := by
  obtain ⟨probed, hprobed, hout⟩ := exists_probed_times name hrun
  obtain ⟨-, rounds, hentered, hevents, hrepeats⟩ :=
    repeats_runWithin (fun events => Event.entries name events = 1)
      (fun _ _ _ _ hcells hrun => entries_probe hname hcells hrun) bounds fuel hcells hprobed
  rw [answers_probe, hout] at hrepeats
  have hcount : Event.entries name probed.events = rounds.length := by
    rw [hevents, Event.entries_flatten hentered]
  refine ⟨probed, hprobed, hout, ?_, ?_⟩
  · intro values next hmatched
    rw [hmatched] at hrepeats
    obtain ⟨-, -, -, ⟨hfull, hrounds⟩ | ⟨hopen, hrounds, -⟩⟩ := Repeats.matched_iff.mp hrepeats
    · rw [if_pos hfull, hcount, hrounds]
    · rw [if_neg hopen, hcount, hrounds]
  · intro failure values stop hfailed hchain hshort hanswer
    have hrepeats' := Repeats.failed_iff.mpr ⟨values, stop, hchain, hshort, hanswer, rfl⟩
    rw [hcount]
    exact (hrepeats.unique hp hrepeats').2

theorem tryTimes_bounds (p : Parser S α) (bounds : Bounds) :
    p.tryTimes bounds.least bounds.most = .ok (p.times bounds) := by
  obtain ⟨least, most, ordered⟩ := bounds
  cases most with
  | none => rfl
  | some most => simp [tryTimes, Bounds.make, ordered most rfl]

/-- A repetition of a parser whose answers depend on the offset alone matches exactly at the end of
a chain of allowed length that is full or stops at a failure, and fails exactly if a chain that is
too short stops at that failure. A probe that the parser itself never enters counts its runs. -/
theorem times_iff_chain (hp : p.IsSteady grammar input) (bounds : Bounds) {fuel offset : Nat}
    {memory : Memory S} (hcells : memory.cells.Faithful grammar) {run : Run S (List α)}
    (hrun : (p.times bounds).runWithin grammar input fuel offset memory = some run) :
    (∀ values next, run.outcome = .matched values next ↔
      Chain (p.Answers grammar input) offset values next ∧ bounds.least ≤ values.length ∧
        (∀ most ∈ bounds.most, values.length ≤ most) ∧
        (bounds.most = some values.length ∨
          ∃ failure, p.Answers grammar input next (.failed failure))) ∧
    (∀ failure, run.outcome = .failed failure ↔
      ∃ values stop, Chain (p.Answers grammar input) offset values stop ∧
        values.length < bounds.least ∧ p.Answers grammar input stop (.failed failure)) ∧
    (∀ fault, run.outcome = .faulted fault ↔
      ∃ values stop, Chain (p.Answers grammar input) offset values stop ∧
        (∀ most ∈ bounds.most, values.length < most) ∧
          p.Answers grammar input stop (.faulted fault)) ∧
    (∀ name, p.NeverEnters grammar input name →
      ∃ probed, ((Parser.probe name p).times bounds).runWithin grammar input fuel offset memory =
          some probed ∧ probed.outcome = run.outcome ∧
        (∀ values next, run.outcome = .matched values next →
          Event.entries name probed.events =
            if bounds.most = some values.length then values.length else values.length + 1) ∧
        ∀ failure values stop, run.outcome = .failed failure →
          Chain (p.Answers grammar input) offset values stop → values.length < bounds.least →
            p.Answers grammar input stop (.failed failure) →
              Event.entries name probed.events = values.length + 1) ∧
    p.tryTimes bounds.least bounds.most = .ok (p.times bounds) ∧
    (∀ count, p.tryTimes count none = .ok (p.atLeast count)) ∧
    (∀ count, p.tryTimes 0 (some count) = .ok (p.atMost count)) ∧
    p.tryTimes 0 none = .ok p.many := by
  obtain ⟨-, rounds, -, -, hrepeats⟩ :=
    repeats_runWithin (fun _ => True) (fun _ _ _ _ _ _ => trivial) bounds fuel hcells hrun
  exact ⟨fun _ _ => hrepeats.eq_matched_iff hp, fun _ => hrepeats.eq_failed_iff hp,
    fun _ => hrepeats.eq_faulted_iff hp,
    fun _ hname => exists_entries_times hp hname hcells hrun, tryTimes_bounds p bounds,
    fun count => tryTimes_bounds p (.atLeast count), fun count => tryTimes_bounds p (.atMost count),
    tryTimes_bounds p (.atLeast 0)⟩

end Parser

namespace Nested

theorem neverEnters_round (input : Text) :
    inParentheses.NeverEnters Nested.grammar input "round" := by
  have hparser : inParentheses.Probes fun probe => probe ≠ "round" :=
    ⟨⟨trivial, fun _ => trivial⟩, trivial⟩
  exact Parser.neverEnters_of_probes (fun _ => ⟨hparser, trivial⟩) hparser

/-- A nest, and so many more at most. -/
abbrev nests (more : Nat) : Parser Nested (List Nat) :=
  inParentheses.times ((Bounds.exactly 1).extended more)

/-- Two nests and an opening bracket: the third round reads the bracket before it fails, and the
bracket is given back. If three rounds have to match, that failure is the whole answer. -/
theorem inParentheses_chain :
    (∃ run, (nests 2).runWithin Nested.grammar "é()(())(".toList 9 2 ⟨.empty, .empty⟩ = some run ∧
      run.outcome = .matched [1, 2] 8 ∧
      Chain (inParentheses.Answers Nested.grammar "é()(())(".toList) 2 [1, 2] 8 ∧
      ∃ probed, ((Parser.probe "round" inParentheses).times
          ((Bounds.exactly 1).extended 2)).runWithin Nested.grammar "é()(())(".toList 9 2
            ⟨.empty, .empty⟩ = some probed ∧
        Event.entries "round" probed.events = 3) ∧
    ∃ run, (inParentheses.times (.exactly 3)).runWithin Nested.grammar "é()(())(".toList 9 2
        ⟨.empty, .empty⟩ = some run ∧ run.outcome = .failed ⟨9, "')'"⟩ ∧
      ∃ values stop, Chain (inParentheses.Answers Nested.grammar "é()(())(".toList) 2 values stop ∧
        values.length < 3 ∧
          inParentheses.Answers Nested.grammar "é()(())(".toList stop (.failed ⟨9, "')'"⟩) := by
  have hsteady : inParentheses.IsSteady Nested.grammar "é()(())(".toList :=
    Parser.IsPlain.isSteady isPlain_grammar isPlain_inParentheses
  have hmatched : ((nests 2).runWithin Nested.grammar "é()(())(".toList 9 2
      ⟨.empty, .empty⟩).map (·.outcome) = some (.matched [1, 2] 8) := by
    decide +kernel
  have hfailed : ((inParentheses.times (.exactly 3)).runWithin Nested.grammar "é()(())(".toList 9 2
      ⟨.empty, .empty⟩).map (·.outcome) = some (.failed ⟨9, "')'"⟩) := by
    decide +kernel
  obtain ⟨run, hrun, hout⟩ := Option.map_eq_some_iff.mp hmatched
  obtain ⟨run', hrun', hout'⟩ := Option.map_eq_some_iff.mp hfailed
  obtain ⟨hmatches, -, -, hentries, -⟩ :=
    Parser.times_iff_chain hsteady _ Cells.faithful_empty hrun
  obtain ⟨-, hfails, -⟩ := Parser.times_iff_chain hsteady _ Cells.faithful_empty hrun'
  obtain ⟨probed, hprobed, -, hcount, -⟩ := hentries "round" (neverEnters_round _)
  exact ⟨⟨run, hrun, hout, ((hmatches [1, 2] 8).mp hout).1, probed, hprobed, hcount _ _ hout⟩,
    ⟨run', hrun', hout', (hfails _).mp hout'⟩⟩

end Nested

end Descent
