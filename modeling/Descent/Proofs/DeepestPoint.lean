import Descent.Proofs.OffsetSafety

/-!
# The error lies at the deepest point

A match reports nothing, yet no operator can drop one without a failure at or beyond its end being
reported later: the parser that goes on from there either matches further or reports. So nothing
inside a failed parse got beyond its error.
-/

namespace Descent

variable {S : Signature} {α : Type} {grammar : Grammar S} {input : Text}

/-- If it stopped somewhere, it stopped at or after its start, and nothing that was observed lies
beyond both that place and all reports. -/
def Accounted (start : Nat) (outcome : Outcome Unit) (events : List (Event S.Rule)) : Prop :=
  ∀ stop, outcome.place? = some stop → start ≤ stop ∧
    ∀ place ∈ Event.places events,
      place ≤ stop ∨ ∃ failure ∈ Event.reports events, place ≤ failure.offset

theorem Accounted.andThen {start next : Nat} {outcome : Outcome Unit}
    {first rest : List (Event S.Rule)} (h : Accounted start (.matched () next) first)
    (h' : Accounted next outcome rest) : Accounted start outcome (first ++ rest) := by
  intro stop hstop
  obtain ⟨hstart, hfirst⟩ := h next rfl
  obtain ⟨hnext, hrest⟩ := h' stop hstop
  refine ⟨Nat.le_trans hstart hnext, ?_⟩
  intro place hplace
  rw [Event.places_append] at hplace
  rw [Event.reports_append]
  rcases List.mem_append.mp hplace with hplace | hplace
  · rcases hfirst place hplace with hle | ⟨failure, hreported, hle⟩
    · exact .inl (Nat.le_trans hle hnext)
    · exact .inr ⟨failure, List.mem_append_left _ hreported, hle⟩
  · rcases hrest place hplace with hle | ⟨failure, hreported, hle⟩
    · exact .inl hle
    · exact .inr ⟨failure, List.mem_append_right _ hreported, hle⟩

/-- The failure that is backtracked over has been reported, and that report remains. -/
theorem Accounted.orElse {start : Nat} {failure : Failure} {outcome : Outcome Unit}
    {first rest : List (Event S.Rule)} (h : Accounted start (.failed failure) first)
    (hreported : failure ∈ Event.reports first) (h' : Accounted start outcome rest) :
    Accounted start outcome (first ++ rest) := by
  intro stop hstop
  obtain ⟨-, hfirst⟩ := h failure.offset rfl
  obtain ⟨hstart, hrest⟩ := h' stop hstop
  refine ⟨hstart, ?_⟩
  intro place hplace
  rw [Event.places_append] at hplace
  rw [Event.reports_append]
  rcases List.mem_append.mp hplace with hplace | hplace
  · rcases hfirst place hplace with hle | ⟨other, hother, hle⟩
    · exact .inr ⟨failure, List.mem_append_left _ hreported, hle⟩
    · exact .inr ⟨other, List.mem_append_left _ hother, hle⟩
  · rcases hrest place hplace with hle | ⟨other, hother, hle⟩
    · exact .inl hle
    · exact .inr ⟨other, List.mem_append_right _ hother, hle⟩

theorem Course.accounted {start : Nat} {before after : Tracker} {outcome : Outcome Unit}
    {events : List (Event S.Rule)}
    (h : Course grammar input .none start before outcome events after) :
    Accounted start outcome events := by
  induction h with
  | stay start t =>
    rintro _ ⟨⟩
    simp
  | take a taken rest t hsplit =>
    rintro _ ⟨⟩
    simp
  | misplaced | fault =>
    rintro _ ⟨⟩
  | fail start t expected =>
    rintro _ ⟨⟩
    simp
  | custom start t act hnone => exact hnone.elim
  | goOn _ _ ih ih' => exact ih.andThen ih'
  | goBack hfailed _ ih ih' => exact ih.orElse (hfailed.mem_reports (fun _ _ h => h.elim) rfl) ih'
  | construct rule _ ih =>
    intro stop hstop
    simpa [Event.place?, Event.report?] using ih stop hstop
  | left probe _ ih | missed probe _ ih =>
    rintro _ ⟨⟩
    obtain ⟨hstart, hinner⟩ := ih _ rfl
    refine ⟨hstart, ?_⟩
    simpa [Event.place?, Event.report?, or_imp, forall_and, hstart] using hinner
  | broken =>
    rintro _ ⟨⟩

/-- No probe was left or missed beyond a place. -/
def Event.EndWithin {Rule : Type} (events : List (Event Rule)) (place : Nat) : Prop :=
  (∀ probe next, .left probe next ∈ events → next ≤ place) ∧
    ∀ probe failure, .missed probe failure ∈ events → failure.offset ≤ place

theorem Parse.Ends.endWithin {parse : Parse S α} {error : ParseError}
    (h : parse.Ends grammar input .none) (hrejected : parse.verdict = .rejected error) :
    Event.EndWithin parse.events error.offset := by
  have hplain : ∀ α act, Kind.none α act → reporting α act := fun _ _ h => h.elim
  obtain ⟨failure, events, after, hcourse, hlast, hevents⟩ := h.exists_course hplain hrejected
  have hwithin : ∀ place ∈ Event.places events, place ≤ error.offset := by
    intro place hplace
    rcases (hcourse.accounted failure.offset rfl).2 place hplace with hle | ⟨other, hother, hle⟩
    · exact Nat.le_trans hle (hlast.offset_le failure (hcourse.mem_reports hplain rfl))
    · exact Nat.le_trans hle (hlast.offset_le other hother)
  rw [hevents]
  constructor
  · intro probe next hleft
    exact hwithin next (Event.mem_places (by simpa using hleft) rfl)
  · intro probe other hmissed
    exact hwithin other.offset (Event.mem_places (by simpa using hmissed) rfl)

namespace Parser

/-- Nothing that ran in a rejected parse, watched or not, matched or failed beyond the error. -/
theorem rejected_endWithin (hg : grammar.IsPlain) {p : Parser S α} (hp : p.IsPlain)
    {cells : Cells S} (hcells : cells.Faithful grammar) (input : Text) (fuel : Nat) :
    (∀ parse error, p.parseWithin fuel grammar input cells = some parse →
      parse.verdict = .rejected error →
        Event.EndWithin parse.events error.offset ∧
        ∀ leaf node, ∃ watched,
          (p.watched leaf node).parseWithin fuel (grammar.watched leaf node) input .empty =
            some watched ∧
          watched.verdict = .rejected error ∧ Event.EndWithin watched.events error.offset) ∧
    ∀ parse error, p.parsePartialWithin fuel grammar input cells = some parse →
      parse.verdict = .rejected error →
        Event.EndWithin parse.events error.offset ∧
        ∀ leaf node, ∃ watched,
          (p.watched leaf node).parsePartialWithin fuel (grammar.watched leaf node) input .empty =
            some watched ∧
          watched.verdict = .rejected error ∧ Event.EndWithin watched.events error.offset := by
  constructor
  · intro parse error hparse hrejected
    refine ⟨(parseWithin_ends hg hp hcells hparse).endWithin hrejected, ?_⟩
    intro leaf node
    obtain ⟨watched, hwatched, hverdict⟩ := exists_watched_parse leaf node hg hp hcells hparse
    have hends := parseWithin_ends (hg.watched leaf node) (hp.watched leaf node)
      Cells.faithful_empty hwatched
    exact ⟨watched, hwatched, hverdict.trans hrejected, hends.endWithin (hverdict.trans hrejected)⟩
  · intro parse error hparse hrejected
    refine ⟨(parsePartialWithin_ends hg hp hcells hparse).endWithin hrejected, ?_⟩
    intro leaf node
    obtain ⟨watched, hwatched, hverdict⟩ :=
      exists_watched_parsePartial leaf node hg hp hcells hparse
    have hends := parsePartialWithin_ends (hg.watched leaf node) (hp.watched leaf node)
      Cells.faithful_empty hwatched
    exact ⟨watched, hwatched, hverdict.trans hrejected, hends.endWithin (hverdict.trans hrejected)⟩

end Parser

theorem Nested.probedNest_endWithin :
    ∃ parse error, probedNest.parseWithin 9 Nested.grammar "((é))x".toList .empty = some parse ∧
      parse.verdict = .rejected error ∧ error.failure = ⟨2, "')'"⟩ ∧
      Event.EndWithin parse.events 2 := by
  have hverdict : ((probedNest.parseWithin 9 Nested.grammar "((é))x".toList .empty).map fun parse =>
      parse.verdict) = some (.rejected ⟨2, 2, "')'", ⟨0, 2⟩,
        "expected ')' at character 2, got '...é))x'\n    parsing: '((é))x'"⟩) := by
    decide +kernel
  obtain ⟨parse, hparse, hrejected⟩ := Option.map_eq_some_iff.mp hverdict
  obtain ⟨hwhole, -⟩ := Parser.rejected_endWithin isPlain_grammar (p := probedNest) trivial
    Cells.faithful_empty "((é))x".toList 9
  exact ⟨parse, _, hparse, hrejected, rfl, (hwhole parse _ hparse hrejected).1⟩

end Descent
