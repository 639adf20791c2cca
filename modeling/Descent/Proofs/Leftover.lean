import Descent.Proofs.Attempt
import Descent.Proofs.DeepestPoint
import Descent.Proofs.WholeInput

/-!
# What is left over

A parse of the whole input and one of its beginning agree unless something is left over. Then the
whole is rejected, and where the beginning ended there is a failure more. It comes last, so it wins
every tie there, but it loses to whatever failed further on.
-/

namespace Descent

variable {S : Signature} {α : Type} {grammar : Grammar S} {input : Text}

namespace Failure.IsLastFurthest

variable {failure last : Failure} {failures : List Failure}

theorem eq_of_concat (h : failure.IsLastFurthest (failures ++ [last]))
    (hoffset : failure.offset = last.offset) : failure = last := by
  have hall : failure.IsLastFurthest (failures ++ ([last] ++ [])) := h
  have hlast : failure.IsLastFurthest [last] :=
    hall.of_append ⟨last, List.mem_singleton_self last, hoffset.symm⟩ (by simp)
  exact List.mem_singleton.mp hlast.mem

theorem of_concat (h : failure.IsLastFurthest (failures ++ [last]))
    (hlt : last.offset < failure.offset) : failure.IsLastFurthest failures := by
  have hmem : failure ∈ failures := by
    rcases List.mem_append.mp h.mem with hmem | hmem
    · exact hmem
    · rw [List.mem_singleton.mp hmem] at hlt
      exact absurd hlt (Nat.lt_irrefl _)
  have hall : failure.IsLastFurthest ([] ++ (failures ++ [last])) := h
  apply hall.of_append ⟨failure, hmem, rfl⟩
  intro other hother
  rw [List.mem_singleton.mp hother]
  exact Nat.ne_of_lt hlt

theorem lt_concat_iff (h : failure.IsLastFurthest (failures ++ [last])) :
    last.offset < failure.offset ↔ ∃ other ∈ failures, last.offset < other.offset := by
  constructor
  · intro hlt
    exact ⟨failure, (h.of_concat hlt).mem, hlt⟩
  · rintro ⟨other, hother, hlt⟩
    exact Nat.lt_of_lt_of_le hlt (h.offset_le other (List.mem_append_left _ hother))

end Failure.IsLastFurthest

/-- What failed beyond the end of a match has left a report beyond it. -/
theorem Accounted.exists_report {start next : Nat} {events : List (Event S.Rule)}
    (h : Accounted start (.matched () next) events) {probe : String} {failure : Failure}
    (hmissed : .missed probe failure ∈ events) (hlt : next < failure.offset) :
    ∃ reported ∈ Event.reports events, next < reported.offset := by
  rcases (h next rfl).2 failure.offset (Event.mem_places hmissed rfl) with
    hle | ⟨reported, hreported, hle⟩
  · exact absurd hlt (Nat.not_lt.mpr hle)
  · exact ⟨reported, hreported, Nat.lt_of_lt_of_le hlt hle⟩

theorem Event.mem_missedBy_iff {Rule : Type} {name : String} {failure : Failure}
    {events : List (Event Rule)} :
    failure ∈ missedBy name events ↔ .missed name failure ∈ events := by
  unfold missedBy
  rw [List.mem_filterMap]
  constructor
  · rintro ⟨event, hevent, hmissed⟩
    cases event <;> simp_all [missedBy?]
  · intro hmissed
    exact ⟨.missed name failure, hmissed, by simp [missedBy?]⟩

namespace Parse

variable {run : Run S α} {value : α} {next : Nat} {error : ParseError}

theorem ofRunPartial_accepted_iff :
    (ofRunPartial input run).verdict = .accepted (value, next) ↔
      run.outcome = .matched value next := by
  unfold ofRunPartial
  cases run.outcome with
  | matched => simp
  | failed failure => simp [conclude_ne_accepted]
  | faulted => simp

theorem events_ofRunPartial_of_matched (h : run.outcome = .matched value next) :
    (ofRunPartial input run).events = run.events := by
  unfold ofRunPartial
  rw [h]

theorem ofRun_of_rejected (h : (ofRunPartial input run).verdict = .rejected error) :
    (ofRun input run).verdict = .rejected error := by
  unfold ofRunPartial at h
  unfold ofRun
  cases hout : run.outcome with
  | matched value next =>
    rw [hout] at h
    cases h
  | failed failure =>
    rw [hout] at h
    dsimp only at h ⊢
    rw [← map_conclude Prod.fst]
    exact congrArg (Verdict.map Prod.fst) h
  | faulted fault =>
    rw [hout] at h
    cases h

theorem ofRun_of_end (h : run.outcome = .matched value (Text.size input)) :
    (ofRun input run).verdict = .accepted value :=
  ofRun_accepted_iff.mpr ⟨_, h, Nat.le_refl _⟩

/-- The end of the match is one more failure, the last one. -/
theorem ofRun_of_leftover (h : run.outcome = .matched value next) (hlt : next < Text.size input) :
    ∃ memory, ofRun input run =
      conclude input ⟨next, "EOF"⟩
        (run.events ++ (run.memory.tracker.observe ⟨next, "EOF"⟩).1) memory := by
  have hend : Text.isAtEnd input next = false := by simpa [Text.isAtEnd] using hlt
  unfold ofRun
  simp only [h, hend, Bool.false_eq_true, if_false]
  exact ⟨_, rfl⟩

theorem conclude_cases {parse : Parse S α} {failure : Failure} {events : List (Event S.Rule)}
    {memory : Memory S} (h : parse = conclude input failure events memory) :
    (∃ error, parse.verdict = .rejected error) ∨ parse.verdict = .faulted .badOffset := by
  subst h
  unfold conclude
  split
  · next error _ => exact .inl ⟨error, rfl⟩
  · exact .inr rfl

theorem exists_leftover (hends : (ofRun input run).Ends grammar input .none)
    (h : run.outcome = .matched value next) (hlt : next < Text.size input) :
    ∃ error, (ofRun input run).verdict = .rejected error ∧
      error.failure.IsLastFurthest (Event.reports run.events ++ [⟨next, "EOF"⟩]) := by
  obtain ⟨memory, hwhole⟩ := ofRun_of_leftover h hlt
  rcases conclude_cases hwhole with ⟨error, hrejected⟩ | hfaulted
  · obtain ⟨-, events, after, -, hlast, hevents⟩ :=
      hends.exists_course (fun _ _ hnone => hnone.elim) hrejected
    refine ⟨error, hrejected, ?_⟩
    rw [hwhole] at hrejected hevents
    rw [(conclude_rejected hrejected).2, List.append_cancel_right_eq] at hevents
    rwa [← hevents, Event.reports_append, Event.reports_observe] at hlast
  · exact absurd hfaulted hends.isBoundary.1

end Parse

namespace Parser

variable {p : Parser S α} {fuel : Nat} {cells cells' : Cells S}

theorem exists_run_of_cells (hg : grammar.IsPlain) (hp : p.IsPlain)
    (hcells : cells.Faithful grammar) (hcells' : cells'.Faithful grammar) {offset : Nat}
    {t : Tracker} {run : Run S α}
    (hrun : p.runWithin grammar input fuel offset ⟨t, cells⟩ = some run) :
    ∃ run', p.runWithin grammar input fuel offset ⟨t, cells'⟩ = some run' ∧
      run'.outcome = run.outcome ∧ run'.memory.tracker = run.memory.tracker := by
  have hfirst : (⟨t, cells⟩ : Memory S).cells.Faithful grammar := hcells
  have hsecond : (⟨t, cells'⟩ : Memory S).cells.Faithful grammar := hcells'
  obtain ⟨run', hrun', hout, hreports⟩ := hp.exists_alike hg hfirst hsecond hrun
  refine ⟨run', hrun', hout.symm, ?_⟩
  rw [(faithful_and_tracker_of_run hfirst hrun).2, (faithful_and_tracker_of_run hsecond hrun').2,
    hreports]

/-- Beyond the end of a match, some parser has failed exactly if something was reported there. -/
theorem exists_watched_leftover (hg : grammar.IsPlain) (hp : p.IsPlain)
    (hcells : cells.Faithful grammar) {run : Run S α}
    (hrun : p.runWithin grammar input fuel 0 (.fresh cells) = some run) {value : α} {next : Nat}
    (hmatched : run.outcome = .matched value next) {leaf node : String} (hnames : node ≠ leaf) :
    ∃ watched, (p.watched leaf node).runWithin (grammar.watched leaf node) input fuel 0
        (.fresh .empty) = some watched ∧
      watched.outcome = run.outcome ∧
      watched.memory.tracker = run.memory.tracker ∧
      Event.missedBy leaf watched.events = Event.reports run.events ∧
      ((∃ failure ∈ Event.reports run.events, next < failure.offset) ↔
        ∃ probe failure, .missed probe failure ∈ watched.events ∧ next < failure.offset) := by
  obtain ⟨watched, hwatched, hout, hreports, htracker⟩ :=
    exists_watched_run leaf node hg hp hcells hrun
  obtain ⟨-, hrecorded⟩ :=
    recording_runWithin_watched hnames hg fuel hp hwatched Cells.faithful_empty
  have hcourse := (charted_runWithin (hg.watched leaf node) fuel (hp.watched leaf node) hwatched
    Cells.faithful_empty).2
  rw [hout, hmatched] at hcourse
  have hmissed : Event.missedBy leaf watched.events = Event.reports run.events :=
    hrecorded.trans hreports
  refine ⟨watched, hwatched, hout, htracker, hmissed, ?_⟩
  constructor
  · rintro ⟨failure, hreported, hlt⟩
    rw [← hmissed, Event.mem_missedBy_iff] at hreported
    exact ⟨leaf, failure, hreported, hlt⟩
  · rintro ⟨probe, failure, hfailed, hlt⟩
    rw [← hreports]
    exact hcourse.accounted.exists_report hfailed hlt

/-- Both entry points make the same of an input, whichever cells they find, unless something is
left over. Then the error does not lie before it; at this place it says that the end of the input
was expected; and it lies beyond exactly if something failed there, and then describes that. -/
theorem parse_leftover (hg : grammar.IsPlain) (hp : p.IsPlain) (hcells : cells.Faithful grammar)
    (hcells' : cells'.Faithful grammar) {beginning : Parse S (α × Nat)}
    (hbeginning : p.parsePartialWithin fuel grammar input cells = some beginning) :
    ∃ whole, p.parseWithin fuel grammar input cells' = some whole ∧
      (∀ error, beginning.verdict = .rejected error → whole.verdict = .rejected error) ∧
      (∀ value next, beginning.verdict = .accepted (value, next) → next ≤ Text.size input) ∧
      (∀ value, beginning.verdict = .accepted (value, Text.size input) →
        whole.verdict = .accepted value) ∧
      ∀ value next, beginning.verdict = .accepted (value, next) → next < Text.size input →
        ∃ error, whole.verdict = .rejected error ∧ next ≤ error.offset ∧
          (error.offset = next → error.expected = "EOF") ∧
          (next < error.offset ↔
            ∃ failure ∈ Event.reports beginning.events, next < failure.offset) ∧
          (next < error.offset →
            error.failure.IsLastFurthest (Event.reports beginning.events)) ∧
          ∀ leaf node, node ≠ leaf → ∃ watched,
            (p.watched leaf node).parsePartialWithin fuel (grammar.watched leaf node) input
              .empty = some watched ∧
            watched.verdict = beginning.verdict ∧
            Event.missedBy leaf watched.events = Event.reports beginning.events ∧
            (next < error.offset ↔
              ∃ probe failure, .missed probe failure ∈ watched.events ∧ next < failure.offset) := by
  obtain ⟨run, hrun, rfl⟩ := Option.map_eq_some_iff.mp hbeginning
  obtain ⟨run', hrun', hout, htracker⟩ := exists_run_of_cells hg hp hcells hcells' hrun
  have hverdict : (Parse.ofRun input run').verdict = (Parse.ofRun input run).verdict :=
    Parse.verdict_ofRun hout htracker
  have hcharted := charted_runWithin hg fuel hp hrun hcells
  refine ⟨.ofRun input run', Option.map_eq_some_iff.mpr ⟨run', hrun', rfl⟩, ?_, ?_, ?_, ?_⟩
  · intro error hrejected
    exact hverdict.trans (Parse.ofRun_of_rejected hrejected)
  · intro value next haccepted
    have hinside := staysInside_runWithin hg hp hrun hcells (Text.isBoundary_zero input)
    exact (reaches_of_matched hinside (Parse.ofRunPartial_accepted_iff.mp haccepted)).le_size
  · intro value haccepted
    exact hverdict.trans (Parse.ofRun_of_end (Parse.ofRunPartial_accepted_iff.mp haccepted))
  · intro value next haccepted hlt
    have hmatched := Parse.ofRunPartial_accepted_iff.mp haccepted
    obtain ⟨error, hrejected, hlast⟩ :=
      Parse.exists_leftover (Parse.ends_ofRun hcharted.2) hmatched hlt
    have hbeyond : next < error.offset ↔
        ∃ failure ∈ Event.reports run.events, next < failure.offset := hlast.lt_concat_iff
    rw [Parse.events_ofRunPartial_of_matched hmatched]
    refine ⟨error, hverdict.trans hrejected, ?_, ?_, hbeyond, hlast.of_concat, ?_⟩
    · exact hlast.offset_le ⟨next, "EOF"⟩ (by simp)
    · intro hoffset
      exact congrArg Failure.expected (hlast.eq_of_concat hoffset)
    · intro leaf node hnames
      obtain ⟨watched, hwatched, hout', htracker', hmissed, hfails⟩ :=
        exists_watched_leftover hg hp hcells hrun hmatched hnames
      have hsame : watched.outcome = .matched value next := hout'.trans hmatched
      refine ⟨.ofRunPartial input watched, Option.map_eq_some_iff.mpr ⟨watched, hwatched, rfl⟩,
        Parse.verdict_ofRunPartial hout' htracker', ?_, ?_⟩
      · rw [Parse.events_ofRunPartial_of_matched hsame, hmissed]
      · rw [Parse.events_ofRunPartial_of_matched hsame, hbeyond, hfails]

end Parser

/-- What an unfinished nest lacks lies beyond what is left over. A character that opens no nest does
not, so there the end of the input is missed. -/
theorem Nested.inParentheses_leftover :
    (∃ whole error, inParentheses.many.parseWithin 9 Nested.grammar "()((".toList .empty =
        some whole ∧ whole.verdict = .rejected error ∧ 2 < error.offset ∧
      error.failure.IsLastFurthest [⟨1, "'('"⟩, ⟨4, "'('"⟩, ⟨4, "')'"⟩, ⟨3, "')'"⟩]) ∧
    ∃ whole error, inParentheses.many.parseWithin 9 Nested.grammar "()x".toList .empty =
      some whole ∧ whole.verdict = .rejected error ∧ error.failure = ⟨2, "EOF"⟩ := by
  have hunfinished : (inParentheses.many.parsePartialWithin 9 Nested.grammar "()((".toList
      .empty).map (fun beginning => (beginning.verdict, Event.reports beginning.events)) =
        some (.accepted ([1], 2), [⟨1, "'('"⟩, ⟨4, "'('"⟩, ⟨4, "')'"⟩, ⟨3, "')'"⟩]) := by
    decide +kernel
  have hother : (inParentheses.many.parsePartialWithin 9 Nested.grammar "()x".toList
      .empty).map (fun beginning => (beginning.verdict, Event.reports beginning.events)) =
        some (.accepted ([1], 2), [⟨1, "'('"⟩, ⟨2, "'('"⟩]) := by
    decide +kernel
  have hplain : inParentheses.many.IsPlain := isPlain_inParentheses
  have hcells : (Cells.empty : Cells Nested).Faithful Nested.grammar := Cells.faithful_empty
  obtain ⟨beginning, hbeginning, hends⟩ := Option.map_eq_some_iff.mp hunfinished
  obtain ⟨beginning', hbeginning', hends'⟩ := Option.map_eq_some_iff.mp hother
  obtain ⟨haccepted, hreports⟩ := Prod.mk.inj hends
  obtain ⟨haccepted', hreports'⟩ := Prod.mk.inj hends'
  constructor
  · obtain ⟨whole, hwhole, -, -, -, hleftover⟩ :=
      Parser.parse_leftover isPlain_grammar hplain hcells hcells hbeginning
    obtain ⟨error, hrejected, -, -, hbeyond, hlast, -⟩ :=
      hleftover [1] 2 haccepted (by decide +kernel)
    rw [hreports] at hbeyond hlast
    have hlt : 2 < error.offset := hbeyond.mpr ⟨⟨4, "'('"⟩, by simp, by decide⟩
    exact ⟨whole, error, hwhole, hrejected, hlt, hlast hlt⟩
  · obtain ⟨whole, hwhole, -, -, -, hleftover⟩ :=
      Parser.parse_leftover isPlain_grammar hplain hcells hcells hbeginning'
    obtain ⟨error, hrejected, hle, htie, hbeyond, -⟩ :=
      hleftover [1] 2 haccepted' (by decide +kernel)
    rw [hreports'] at hbeyond
    have hoffset : error.offset = 2 := by
      apply Nat.le_antisymm _ hle
      apply Nat.le_of_not_lt
      simp [hbeyond]
    refine ⟨whole, error, hwhole, hrejected, ?_⟩
    unfold ParseError.failure
    rw [hoffset, htie hoffset]

end Descent
