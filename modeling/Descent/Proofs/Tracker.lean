import Descent.Event
import Mathlib.Data.List.Induction

/-!
# The tracker as a fold

A tracker that takes in a list of failures ends with the last of the furthest ones. What handing
failures to a tracker shows in the events of a run are exactly these failures, in their order.
-/

namespace Descent

/-- No failure of the list lies further, and of those that lie as far it is the last. -/
structure Failure.IsLastFurthest (failure : Failure) (failures : List Failure) : Prop where
  offset_le : ∀ other ∈ failures, other.offset ≤ failure.offset
  getLast? : (failures.filter (·.offset = failure.offset)).getLast? = some failure

namespace Failure.IsLastFurthest

variable {failure other : Failure} {failures : List Failure}

theorem mem (h : failure.IsLastFurthest failures) : failure ∈ failures :=
  (List.mem_filter.mp (List.mem_of_getLast? h.getLast?)).1

theorem ne_nil (h : failure.IsLastFurthest failures) : failures ≠ [] :=
  List.ne_nil_of_mem h.mem

theorem max?_offset (h : failure.IsLastFurthest failures) :
    (failures.map (·.offset)).max? = some failure.offset := by
  refine List.max?_eq_some_iff.mpr ⟨List.mem_map.mpr ⟨failure, h.mem, rfl⟩, ?_⟩
  intro offset hoffset
  obtain ⟨other, hother, rfl⟩ := List.mem_map.mp hoffset
  exact h.offset_le other hother

theorem append_of_lt (h : failure.IsLastFurthest failures) (hlt : other.offset < failure.offset) :
    failure.IsLastFurthest (failures ++ [other]) where
  offset_le := by
    intro f hf
    rcases List.mem_append.mp hf with hf | hf
    · exact h.offset_le f hf
    · rw [List.mem_singleton.mp hf]
      exact Nat.le_of_lt hlt
  getLast? := by
    have hdropped : [other].filter (·.offset = failure.offset) = [] := by simp [Nat.ne_of_lt hlt]
    rw [List.filter_append, hdropped, List.append_nil, h.getLast?]

/-- A failure that is nowhere behind the earlier ones takes over, a tie included. -/
theorem append_self (h : ∀ f ∈ failures, f.offset ≤ failure.offset) :
    failure.IsLastFurthest (failures ++ [failure]) where
  offset_le := by
    intro f hf
    rcases List.mem_append.mp hf with hf | hf
    · exact h f hf
    · exact Nat.le_of_eq (congrArg offset (List.mem_singleton.mp hf))
  getLast? := by simp [List.filter_append]

/-- Where a part reaches as far and nothing behind it does, the part alone decides. -/
theorem of_append {before part later : List Failure}
    (h : failure.IsLastFurthest (before ++ (part ++ later)))
    (hreached : ∃ other ∈ part, other.offset = failure.offset)
    (hlater : ∀ other ∈ later, other.offset ≠ failure.offset) :
    failure.IsLastFurthest part where
  offset_le other hother := h.offset_le other (by simp [hother])
  getLast? := by
    have hnone : later.filter (·.offset = failure.offset) = [] := by simpa using hlater
    have hsome : part.filter (·.offset = failure.offset) ≠ [] := by simpa using hreached
    have hlast := h.getLast?
    rwa [List.filter_append, List.filter_append, hnone, List.append_nil, List.getLast?_append,
      Option.or_of_isSome (List.getLast?_isSome.mpr hsome)] at hlast

end Failure.IsLastFurthest

namespace Tracker

theorem failure?_report (t : Tracker) (failure : Failure) :
    (t.report failure).failure? =
      if t.accepts failure then some failure else t.failure? := by
  unfold report
  split <;> rfl

theorem accepts_iff {t : Tracker} {failure : Failure} :
    t.accepts failure = true ↔ ∀ f ∈ t.failure?, f.offset ≤ failure.offset := by
  unfold accepts failure?
  cases t.expected <;> simp

theorem reportAll_concat (t : Tracker) (failures : List Failure) (failure : Failure) :
    t.reportAll (failures ++ [failure]) = (t.reportAll failures).report failure :=
  t.reportAll_append failures [failure]

theorem failure?_reportAll_eq_none_iff {t : Tracker} {failures : List Failure} :
    (t.reportAll failures).failure? = none ↔ t.failure? = none ∧ failures = [] := by
  induction failures generalizing t with
  | nil => simp [reportAll_nil]
  | cons first rest ih =>
    rw [reportAll_cons, ih, failure?_report]
    split
    · simp
    · next hrefuses =>
      have hheld : t.failure? ≠ none := by
        intro hnone
        exact hrefuses (accepts_iff.mpr (by simp [hnone]))
      simp [hheld]

/-- What a tracker held before counts as a first failure. -/
theorem isLastFurthest_reportAll {t : Tracker} {failures : List Failure} {failure : Failure}
    (h : (t.reportAll failures).failure? = some failure) :
    failure.IsLastFurthest (t.failure?.toList ++ failures) := by
  induction failures using List.reverseRecOn generalizing failure with
  | nil =>
    rw [reportAll_nil] at h
    rw [h]
    have hself : failure.IsLastFurthest ([] ++ [failure]) := .append_self (by simp)
    exact hself
  | append_singleton failures last ih =>
    rw [reportAll_concat, failure?_report] at h
    rw [← List.append_assoc]
    split at h
    · next haccepts =>
      cases h
      apply Failure.IsLastFurthest.append_self
      cases hbefore : (t.reportAll failures).failure? with
      | none =>
        obtain ⟨hempty, rfl⟩ := failure?_reportAll_eq_none_iff.mp hbefore
        simp [hempty]
      | some best =>
        intro f hf
        exact Nat.le_trans ((ih hbefore).offset_le f hf) (accepts_iff.mp haccepts best hbefore)
    · next hrefuses =>
      obtain ⟨best, hbest, hlt⟩ :
          ∃ f ∈ (t.reportAll failures).failure?, last.offset < f.offset := by
        simpa [accepts_iff] using hrefuses
      cases h.symm.trans hbest
      exact (ih h).append_of_lt hlt

/-- What a tracker accepts after some reports: what it accepted before, unless a report lies
beyond. -/
theorem accepts_after_iff {t : Tracker} {before : List Failure} {failure : Failure} :
    (t.reportAll before).accepts failure = true ↔
      t.accepts failure = true ∧ ∀ earlier ∈ before, earlier.offset ≤ failure.offset := by
  rw [accepts_iff, accepts_iff]
  cases hbest : (t.reportAll before).failure? with
  | none =>
    obtain ⟨hempty, rfl⟩ := failure?_reportAll_eq_none_iff.mp hbest
    simp [hempty]
  | some best =>
    have hlast : best.IsLastFurthest (t.failure?.toList ++ before) := isLastFurthest_reportAll hbest
    constructor
    · intro h
      have hle := h best rfl
      refine ⟨fun held hheld => ?_, fun earlier hearlier => ?_⟩
      · have hmem : held ∈ t.failure?.toList := Option.mem_toList.mpr hheld
        exact Nat.le_trans (hlast.offset_le held (List.mem_append_left before hmem)) hle
      · exact Nat.le_trans (hlast.offset_le earlier (List.mem_append_right _ hearlier)) hle
    · rintro ⟨hheld, hbefore⟩ _ ⟨⟩
      rcases List.mem_append.mp hlast.mem with hmem | hmem
      · exact hheld best (Option.mem_toList.mp hmem)
      · exact hbefore best hmem

theorem failure?_eq_some_iff {t : Tracker} {failure : Failure} :
    t.failure? = some failure ↔
      t.expected = some failure.expected ∧ t.furthest = failure.offset := by
  obtain ⟨furthest, expected⟩ := t
  obtain ⟨offset, description⟩ := failure
  cases expected <;> simp [failure?, and_comm]

theorem report_of_accepts {t : Tracker} {failure : Failure} (h : t.accepts failure = true) :
    t.report failure = ⟨failure.offset, some failure.expected⟩ := by
  unfold report
  rw [if_pos h]

theorem report_of_not_accepts {t : Tracker} {failure : Failure} (h : ¬ t.accepts failure = true) :
    t.report failure = t := by
  unfold report
  rw [if_neg h]

/-- What is reported first does not matter if the next report lies no nearer. -/
theorem report_report_of_le (t : Tracker) {earlier later : Failure}
    (hle : earlier.offset ≤ later.offset) : (t.report earlier).report later = t.report later := by
  by_cases hearlier : t.accepts earlier = true
  · have hlater : t.accepts later = true := by
      rw [accepts_iff] at hearlier ⊢
      exact fun held hheld => Nat.le_trans (hearlier held hheld) hle
    have hafter : (t.report earlier).accepts later = true := by
      rw [report_of_accepts hearlier]
      simp [accepts, hle]
    rw [report_of_accepts hafter, report_of_accepts hlater]
  · rw [report_of_not_accepts hearlier]

theorem report_report_of_lt (t : Tracker) {earlier later : Failure}
    (hlt : later.offset < earlier.offset) : (t.report earlier).report later = t.report earlier := by
  apply report_of_not_accepts
  rw [accepts_iff, failure?_report]
  by_cases hearlier : t.accepts earlier = true
  · rw [if_pos hearlier]
    simpa using hlt
  · rw [if_neg hearlier]
    rw [accepts_iff] at hearlier
    intro hlater
    exact hearlier fun held hheld => Nat.le_trans (hlater held hheld) (Nat.le_of_lt hlt)

/-- Of the failures taken in, only the last of the furthest ones matters. -/
theorem reportAll_eq_reportAll_toList (t : Tracker) (failures : List Failure) :
    t.reportAll failures = t.reportAll (empty.reportAll failures).failure?.toList := by
  induction failures using List.reverseRecOn with
  | nil => rfl
  | append_singleton failures last ih =>
    rw [reportAll_concat, reportAll_concat, ih, failure?_report]
    cases hbest : (empty.reportAll failures).failure? with
    | none =>
      have haccepts : (empty.reportAll failures).accepts last = true :=
        accepts_iff.mpr (by simp [hbest])
      rw [if_pos haccepts]
      rfl
    | some best =>
      by_cases hle : best.offset ≤ last.offset
      · have haccepts : (empty.reportAll failures).accepts last = true :=
          accepts_iff.mpr (by simpa [hbest] using hle)
        rw [if_pos haccepts]
        exact t.report_report_of_le hle
      · have hrefuses : ¬ (empty.reportAll failures).accepts last = true := by
          simpa [accepts_iff, hbest] using hle
        rw [if_neg hrefuses]
        exact t.report_report_of_lt (Nat.lt_of_not_le hle)

/-- To take in the same failures again changes nothing, ties included. -/
theorem reportAll_again (t : Tracker) (failures : List Failure) :
    (t.reportAll failures).reportAll failures = t.reportAll failures := by
  rw [reportAll_eq_reportAll_toList (t.reportAll failures), reportAll_eq_reportAll_toList t]
  cases (empty.reportAll failures).failure? with
  | none => rfl
  | some best => exact t.report_report_of_le (Nat.le_refl best.offset)

section Order

variable {t : Tracker} {xs ys : List Failure}

theorem eq_of_failure? {failure : Failure} (h : t.failure? = some failure) :
    t = ⟨failure.offset, some failure.expected⟩ := by
  obtain ⟨furthest, expected⟩ := t
  obtain ⟨rfl, rfl⟩ := failure?_eq_some_iff.mp h
  rfl

theorem furthest_reportAll_le (h : ∀ failure ∈ xs, failure ∈ ys) {last last' : Failure}
    (hxs : (t.reportAll xs).failure? = some last) (hys : (t.reportAll ys).failure? = some last') :
    last.offset ≤ last'.offset := by
  have hlast : last.IsLastFurthest (t.failure?.toList ++ xs) := isLastFurthest_reportAll hxs
  have hlast' : last'.IsLastFurthest (t.failure?.toList ++ ys) := isLastFurthest_reportAll hys
  apply hlast'.offset_le
  rcases List.mem_append.mp hlast.mem with hmem | hmem
  · exact List.mem_append_left ys hmem
  · exact List.mem_append_right _ (h last hmem)

/-- How far a tracker gets is settled by which failures it takes in, not by their order. -/
theorem furthest_reportAll_congr (h : ∀ failure, failure ∈ xs ↔ failure ∈ ys) :
    (t.reportAll xs).furthest = (t.reportAll ys).furthest := by
  have hnil : xs = [] ↔ ys = [] := by
    simp only [List.eq_nil_iff_forall_not_mem, h]
  cases hxs : (t.reportAll xs).failure? with
  | none =>
    obtain ⟨-, hempty⟩ := failure?_reportAll_eq_none_iff.mp hxs
    rw [hempty, hnil.mp hempty]
  | some last =>
    cases hys : (t.reportAll ys).failure? with
    | none =>
      obtain ⟨-, hempty⟩ := failure?_reportAll_eq_none_iff.mp hys
      rw [hempty, hnil.mpr hempty]
    | some last' =>
      rw [eq_of_failure? hxs, eq_of_failure? hys]
      exact Nat.le_antisymm (furthest_reportAll_le (fun failure => (h failure).mp) hxs hys)
        (furthest_reportAll_le (fun failure => (h failure).mpr) hys hxs)

end Order

theorem expected_eq_none_iff {t : Tracker} : t.expected = none ↔ t.failure? = none := by
  unfold failure?
  simp

section Fresh

variable {failures xs ys : List Failure}

theorem failure?_fresh_eq_none_iff :
    (empty.reportAll failures).failure? = none ↔ failures = [] := by
  rw [failure?_reportAll_eq_none_iff]
  exact and_iff_right rfl

theorem exists_isLastFurthest_of_ne_nil (h : failures ≠ []) :
    ∃ last : Failure, empty.reportAll failures = ⟨last.offset, some last.expected⟩ ∧
      last.IsLastFurthest failures := by
  obtain ⟨last, hlast⟩ := Option.ne_none_iff_exists'.mp (mt failure?_fresh_eq_none_iff.mp h)
  exact ⟨last, eq_of_failure? hlast, isLastFurthest_reportAll hlast⟩

theorem fresh_accepts_iff {failure : Failure} :
    (empty.reportAll xs).accepts failure = true ↔
      xs = [] ∨ (empty.reportAll xs).furthest ≤ failure.offset := by
  rw [← failure?_fresh_eq_none_iff, ← expected_eq_none_iff]
  simp [accepts]

/-- The later one of two lists decides, unless it is empty or lies nearer. -/
theorem fresh_reportAll_append (xs ys : List Failure) :
    empty.reportAll (xs ++ ys) =
      if xs = [] ∨ ys ≠ [] ∧ (empty.reportAll xs).furthest ≤ (empty.reportAll ys).furthest then
        empty.reportAll ys
      else empty.reportAll xs := by
  rw [reportAll_append, reportAll_eq_reportAll_toList _ ys]
  cases hys : (empty.reportAll ys).failure? with
  | none =>
    obtain rfl := failure?_fresh_eq_none_iff.mp hys
    by_cases hxs : xs = [] <;> simp [hxs, reportAll_nil]
  | some best =>
    have hne : ys ≠ [] := by
      intro hempty
      simp [failure?_fresh_eq_none_iff.mpr hempty] at hys
    show (empty.reportAll xs).report best = _
    unfold report
    rw [eq_of_failure? hys]
    simp only [fresh_accepts_iff, hne, ne_eq, not_false_eq_true, true_and]

end Fresh

/-- A fresh tracker ends with the last of the furthest failures: it lies at the greatest offset, and
expects what the last failure there did. Of two lists one after the other, the later one decides
unless it is empty or lies nearer. So to take in a list again changes nothing, and how far a tracker
gets does not depend on the order. -/
theorem reportAll_lastFurthest :
    (∀ failures : List Failure, failures ≠ [] →
      (failures.map (·.offset)).max? = some (empty.reportAll failures).furthest ∧
      ∃ last, (failures.filter (·.offset = (empty.reportAll failures).furthest)).getLast? =
          some last ∧ (empty.reportAll failures).expected = some last.expected) ∧
    (∀ xs ys : List Failure, empty.reportAll (xs ++ ys) =
      if xs = [] ∨ ys ≠ [] ∧ (empty.reportAll xs).furthest ≤ (empty.reportAll ys).furthest then
        empty.reportAll ys
      else empty.reportAll xs) ∧
    (∀ (t : Tracker) (failures : List Failure),
      (t.reportAll failures).reportAll failures = t.reportAll failures) ∧
    ∀ (t : Tracker) (xs ys : List Failure), xs.Perm ys →
      (t.reportAll xs).furthest = (t.reportAll ys).furthest := by
  refine ⟨fun failures hfailures => ?_, fresh_reportAll_append, reportAll_again,
    fun t xs ys hperm => furthest_reportAll_congr fun _ => hperm.mem_iff⟩
  obtain ⟨last, htracker, hlast⟩ := exists_isLastFurthest_of_ne_nil hfailures
  rw [htracker]
  exact ⟨hlast.max?_offset, last, hlast.getLast?, rfl⟩

/-- Two failures lie furthest; the later one stays, also when all of them come again. -/
theorem tie_lastFurthest :
    (([⟨2, "'ab'"⟩, ⟨6, "'g'"⟩, ⟨6, "'h'"⟩, ⟨4, "'x'"⟩] : List Failure).map (·.offset)).max? =
        some (empty.reportAll [⟨2, "'ab'"⟩, ⟨6, "'g'"⟩, ⟨6, "'h'"⟩, ⟨4, "'x'"⟩]).furthest ∧
      (empty.reportAll [⟨2, "'ab'"⟩, ⟨6, "'g'"⟩, ⟨6, "'h'"⟩, ⟨4, "'x'"⟩]).expected = some "'h'" ∧
      (empty.reportAll [⟨6, "'h'"⟩, ⟨4, "'x'"⟩, ⟨6, "'g'"⟩, ⟨2, "'ab'"⟩]).furthest = 6 := by
  obtain ⟨hlast, -, -, hperm⟩ := reportAll_lastFurthest
  obtain ⟨hmax, last, hfilter, hexpected⟩ :=
    hlast [⟨2, "'ab'"⟩, ⟨6, "'g'"⟩, ⟨6, "'h'"⟩, ⟨4, "'x'"⟩] (by simp)
  have hreordered := hperm empty
    [⟨6, "'h'"⟩, ⟨4, "'x'"⟩, ⟨6, "'g'"⟩, ⟨2, "'ab'"⟩]
    [⟨2, "'ab'"⟩, ⟨6, "'g'"⟩, ⟨6, "'h'"⟩, ⟨4, "'x'"⟩] (by decide)
  have hsix : (empty.reportAll [⟨2, "'ab'"⟩, ⟨6, "'g'"⟩, ⟨6, "'h'"⟩, ⟨4, "'x'"⟩]).furthest = 6 := by
    decide
  obtain rfl : (⟨6, "'h'"⟩ : Failure) = last := by
    rw [hsix] at hfilter
    exact Option.some.inj ((by decide : _ = some (⟨6, "'h'"⟩ : Failure)).symm.trans hfilter)
  exact ⟨hmax, hexpected, hreordered.trans hsix⟩

theorem observeAll_snd {Rule : Type} (t : Tracker) (failures : List Failure) :
    (t.observeAll failures : List (Event Rule) × Tracker).2 = t.reportAll failures := by
  induction failures generalizing t with
  | nil => rfl
  | cons first rest ih => exact ih (t.report first)

end Tracker

namespace Event

variable {Rule : Type}

@[simp]
theorem reports_nil : reports ([] : List (Event Rule)) = [] :=
  rfl

@[simp]
theorem reports_cons (event : Event Rule) (events : List (Event Rule)) :
    reports (event :: events) = event.report?.toList ++ reports events := by
  cases event <;> rfl

@[simp]
theorem reports_map_furthest (failures : List Failure) :
    reports (failures.map furthest : List (Event Rule)) = [] := by
  induction failures with
  | nil => rfl
  | cons first rest ih => exact ih

@[simp]
theorem reports_observe (t : Tracker) (failure : Failure) :
    reports (t.observe failure : List (Event Rule) × Tracker).1 = [failure] := by
  unfold Tracker.observe
  split <;> rfl

@[simp]
theorem reports_observeAll (t : Tracker) (failures : List Failure) :
    reports (t.observeAll failures : List (Event Rule) × Tracker).1 = failures := by
  induction failures generalizing t with
  | nil => rfl
  | cons first rest ih =>
    unfold Tracker.observeAll
    rw [reports_append, reports_observe, ih, List.singleton_append]

end Event

end Descent
