import Descent.Proofs.Repetition

/-!
# What matches relate

A property of matches is a relation between the offset where a match starts, its value and the
offset where it ends. Each operator carries such properties over, so what all matches of a parser
have in common is found parser by parser.
-/

namespace Descent

variable {S : Signature} {α β γ : Type}

theorem Outcome.map_eq_matched_iff {f : α → β} {outcome : Outcome α} {value : β} {next : Nat} :
    outcome.map f = .matched value next ↔ ∃ a, outcome = .matched a next ∧ f a = value := by
  cases outcome with
  | matched a stop => simp [Outcome.map, and_comm, and_left_comm, eq_comm]
  | failed | faulted => simp [Outcome.map]

/-- Matches in a row, from one boundary to another, that all satisfy a relation. -/
def Row (input : Text) (R : Nat → α → Nat → Prop) (offset : Nat) (values : List α) (next : Nat) :
    Prop :=
  Chain (fun start round => ∃ value stop, round = .matched value stop ∧ R start value stop)
    offset values next ∧ input.IsBoundary next

theorem Row.elim {input : Text} {R : Nat → α → Nat → Prop} {R' : Nat → List α → Nat → Prop}
    {offset next : Nat} {values : List α} (h : Row input R offset values next)
    (hnil : ∀ {offset}, input.IsBoundary offset → R' offset [] offset)
    (hcons : ∀ {offset a middle values stop}, R offset a middle → R' middle values stop →
      R' offset (a :: values) stop) : R' offset values next := by
  obtain ⟨hchain, hnext⟩ := h
  induction hchain with
  | stop offset => exact hnil hnext
  | go first more ih =>
    obtain ⟨value, stop, hmatched, hfirst⟩ := first
    cases hmatched
    exact hcons hfirst (ih hnext)

namespace Action

/-- From a boundary on, every match relates its start, its value and its end. -/
def Relates (grammar : Grammar S) (input : Text) (R : Nat → α → Nat → Prop)
    (action : Action S α) : Prop :=
  ∀ ⦃offset : Nat⦄ ⦃memory : Memory S⦄ ⦃run : Run S α⦄, memory.cells.Faithful grammar →
    input.IsBoundary offset → action offset memory = some run →
      run.memory.cells.Faithful grammar ∧
        ∀ value next, run.outcome = .matched value next → R offset value next

variable {grammar : Grammar S} {input : Text} {R : Nat → α → Nat → Prop} {action : Action S α}

theorem relates_yield {value : α}
    (h : ∀ {offset}, input.IsBoundary offset → R offset value offset) :
    Relates grammar input R (yield value) := by
  rintro offset memory run hcells hoffset ⟨⟩
  refine ⟨hcells, ?_⟩
  rintro _ _ ⟨⟩
  exact h hoffset

theorem relates_unfinished : Relates grammar input R unfinished := by
  rintro offset memory run hcells hoffset ⟨⟩

theorem relates_failing (expected : String) : Relates grammar input R (failing expected) := by
  rintro offset memory run hcells hoffset ⟨⟩
  exact ⟨hcells, by simp [Run.failing]⟩

theorem relates_faulting (cause : Fault) : Relates grammar input R (faulting cause) := by
  rintro offset memory run hcells hoffset ⟨⟩
  exact ⟨hcells, by simp [Run.quiet]⟩

theorem relates_currentOffset :
    Relates grammar input
      (fun offset value next => value = offset ∧ next = offset ∧ input.IsBoundary next)
      (currentOffset : Action S Nat) := by
  rintro offset memory run hcells hoffset ⟨⟩
  refine ⟨hcells, ?_⟩
  rintro _ _ ⟨⟩
  exact ⟨rfl, rfl, hoffset⟩

theorem relates_endOfInput {R : Nat → Unit → Nat → Prop}
    (h : ∀ {offset}, input.IsBoundary offset → R offset () offset) :
    Relates grammar input R (endOfInput input : Action S Unit) := by
  intro offset memory run hcells hoffset hrun
  unfold endOfInput at hrun
  split at hrun
  · exact relates_yield h hcells hoffset hrun
  · exact relates_failing "EOF" hcells hoffset hrun

theorem relates_lexeme {l : Lexeme α}
    (h : ∀ before rest value count, input = before ++ rest → l.read? rest = some (value, count) →
      R before.size value (before ++ rest.take count).size) :
    Relates grammar input R (l.run input) := by
  intro offset memory run hcells hoffset hrun
  unfold Lexeme.run at hrun
  split at hrun
  · cases hrun
    exact ⟨hcells, by simp [Run.quiet]⟩
  · next rest hrest =>
    split at hrun
    · next value count hread =>
      cases hrun
      refine ⟨hcells, ?_⟩
      rintro _ _ ⟨⟩
      obtain ⟨before, hinput, rfl⟩ := Text.after?_eq_some_iff.mp hrest
      rw [← Text.size_append]
      exact h before rest value count hinput hread
    · cases hrun
      exact ⟨hcells, by simp [Run.failing]⟩

namespace Relates

variable {R' : Nat → β → Nat → Prop}

theorem mono {Q : Nat → α → Nat → Prop} (h : Relates grammar input R action)
    (hQ : ∀ {offset a next}, input.IsBoundary offset → R offset a next → Q offset a next) :
    Relates grammar input Q action := by
  intro offset memory run hcells hoffset hrun
  obtain ⟨hleft, hmatches⟩ := h hcells hoffset hrun
  exact ⟨hleft, fun value next hmatched => hQ hoffset (hmatches value next hmatched)⟩

theorem map {f : α → β} (h : Relates grammar input R action)
    (hf : ∀ {offset a next}, R offset a next → R' offset (f a) next) :
    Relates grammar input R' (action.map f) := by
  intro offset memory run hcells hoffset hrun
  obtain ⟨inner, hinner, rfl⟩ := Option.map_eq_some_iff.mp hrun
  obtain ⟨hleft, hmatches⟩ := h hcells hoffset hinner
  refine ⟨hleft, ?_⟩
  intro value next hmatched
  obtain ⟨a, ha, rfl⟩ := Outcome.map_eq_matched_iff.mp hmatched
  exact hf (hmatches a next ha)

/-- The second action starts where the first one stopped, which has to be a boundary again. -/
theorem bind {R'' : α → Nat → β → Nat → Prop} {next : α → Action S β}
    (h : Relates grammar input R action) (h' : ∀ a, Relates grammar input (R'' a) (next a))
    (hstop : ∀ {offset a middle}, R offset a middle → input.IsBoundary middle)
    (hboth : ∀ {offset a middle b stop}, R offset a middle → R'' a middle b stop →
      R' offset b stop) :
    Relates grammar input R' (action.bind next) := by
  intro offset memory result hcells hoffset hresult
  obtain ⟨run, hrun, hrest⟩ := Option.bind_eq_some_iff.mp hresult
  obtain ⟨hleft, hmatches⟩ := h hcells hoffset hrun
  rcases Run.andThen_eq_some_iff.mp hrest with
    ⟨a, middle, rest, hmatched, hmore, rfl⟩ | ⟨failure, hfailed, rfl⟩ | ⟨fault, hfaulted, rfl⟩
  · have hfirst := hmatches a middle hmatched
    obtain ⟨hleft', hmatches'⟩ := h' a hleft (hstop hfirst) hmore
    exact ⟨hleft', fun b stop hb => hboth hfirst (hmatches' b stop hb)⟩
  · exact ⟨hleft, by simp⟩
  · exact ⟨hleft, by simp⟩

theorem zipWith {R'' : Nat → γ → Nat → Prop} {second : Action S β} {f : α → β → γ}
    (h : Relates grammar input R action) (h' : Relates grammar input R' second)
    (hstop : ∀ {offset a middle}, R offset a middle → input.IsBoundary middle)
    (hboth : ∀ {offset a middle b stop}, R offset a middle → R' middle b stop →
      R'' offset (f a b) stop) :
    Relates grammar input R'' (action.bind fun a => second.map (f a)) := by
  have hsecond : ∀ a, Relates grammar input (fun middle c stop => ∃ b, R' middle b stop ∧ f a b = c)
      (second.map (f a)) :=
    fun a => h'.map fun hb => ⟨_, hb, rfl⟩
  refine h.bind hsecond hstop ?_
  rintro offset a middle _ stop hfirst ⟨b, hb, rfl⟩
  exact hboth hfirst hb

theorem orElse {second : Action S α} (h : Relates grammar input R action)
    (h' : Relates grammar input R second) : Relates grammar input R (action.orElse second) := by
  intro offset memory result hcells hoffset hresult
  obtain ⟨run, hrun, hrest⟩ := Option.bind_eq_some_iff.mp hresult
  obtain ⟨hleft, hmatches⟩ := h hcells hoffset hrun
  rcases Run.orElse_eq_some_iff.mp hrest with ⟨failure, rest, -, hsecond, rfl⟩ | ⟨-, rfl⟩
  · obtain ⟨hleft', hmatches'⟩ := h' hleft hoffset hsecond
    exact ⟨hleft', hmatches'⟩
  · exact ⟨hleft, hmatches⟩

theorem required (h : Relates grammar input R action)
    (hstop : ∀ {offset a middle}, R offset a middle → input.IsBoundary middle) (count : Nat) :
    Relates grammar input (Row input R) (action.required count) := by
  induction count with
  | zero => exact relates_yield fun hoffset => ⟨.stop _, hoffset⟩
  | succ count ih =>
    refine h.zipWith ih hstop ?_
    exact fun hfirst hmore => ⟨.go ⟨_, _, rfl, hfirst⟩ hmore.1, hmore.2⟩

theorem optional {last : Action S (List α)} (h : Relates grammar input R action)
    (hstop : ∀ {offset a middle}, R offset a middle → input.IsBoundary middle)
    (hlast : Relates grammar input (Row input R) last) (count : Nat) :
    Relates grammar input (Row input R) (action.optional last count) := by
  induction count with
  | zero => exact hlast
  | succ count ih =>
    intro offset memory result hcells hoffset hresult
    obtain ⟨run, hrun, hends⟩ := optional_succ_eq_some_iff.mp hresult
    obtain ⟨hleft, hmatches⟩ := h hcells hoffset hrun
    rcases hends with ⟨value, middle, rest, hmatched, hmore, rfl⟩ | ⟨failure, hfailed, rfl⟩ |
      ⟨fault, hfaulted, rfl⟩
    · have hfirst := hmatches value middle hmatched
      obtain ⟨hleft', hmatches'⟩ := ih hleft (hstop hfirst) hmore
      refine ⟨hleft', ?_⟩
      intro values next hvalues
      obtain ⟨others, hothers, rfl⟩ := Outcome.map_eq_matched_iff.mp hvalues
      obtain ⟨hchain, hnext⟩ := hmatches' others next hothers
      exact ⟨.go ⟨_, _, rfl, hfirst⟩ hchain, hnext⟩
    · -- The round that failed leaves no trace: the repetition ends where it began.
      refine ⟨hleft, ?_⟩
      rintro _ _ ⟨⟩
      exact ⟨.stop _, hoffset⟩
    · exact ⟨hleft, by simp⟩

/-- A relation of lists is built up from the end of the row, match by match. -/
theorem times {Q : Nat → List α → Nat → Prop} (h : Relates grammar input R action)
    (hstop : ∀ {offset a middle}, R offset a middle → input.IsBoundary middle)
    (hnil : ∀ {offset}, input.IsBoundary offset → Q offset [] offset)
    (hcons : ∀ {offset a middle values stop}, R offset a middle → Q middle values stop →
      Q offset (a :: values) stop) (bounds : Bounds) (fuel : Nat) :
    Relates grammar input Q (action.times bounds fuel) := by
  have hsurplus : Relates grammar input (Row input R) (action.surplus bounds fuel) := by
    unfold Action.surplus
    cases bounds.most with
    | none => exact h.optional hstop relates_unfinished fuel
    | some most =>
      exact h.optional hstop (relates_yield fun hoffset => ⟨.stop _, hoffset⟩) (most - bounds.least)
  have hrow : Relates grammar input (Row input R) (action.times bounds fuel) := by
    refine (h.required hstop bounds.least).zipWith hsurplus (fun hrow => hrow.2) ?_
    exact fun hfirst hmore => ⟨hfirst.1.append hmore.1, hmore.2⟩
  exact hrow.mono fun _ h => h.elim hnil hcons

theorem lazy {call : (α : Type) → Parser S α → Action S α} {rule : S.Rule}
    {R : Nat → S.Result rule → Nat → Prop}
    (h : Relates grammar input R (call _ (grammar.body rule))) (slot : Nat) :
    Relates grammar input R (.lazy grammar call slot rule) := by
  intro offset memory result hcells hoffset hresult
  rw [lazy_eq] at hresult
  obtain ⟨hopened, hinner⟩ := hcells.opening slot rule
  obtain ⟨run, hrun, rfl⟩ := Option.map_eq_some_iff.mp hresult
  rw [hopened] at hrun
  obtain ⟨hleft, hmatches⟩ := h hinner hoffset hrun
  exact ⟨hcells.closing hleft slot rule, hmatches⟩

/-- A mark has the ends of the match that it wraps. -/
theorem mark {call : (α : Type) → Parser S α → Action S α} {fuel : Nat} {p : Parser S α}
    (h : Relates grammar input R (p.action grammar input call fuel))
    (hstop : ∀ {offset a middle}, R offset a middle → input.IsBoundary middle) :
    Relates grammar input
      (fun offset mark next => mark.start = offset ∧ mark.stop = next ∧ R offset mark.value next)
      (p.mark.action grammar input call fuel) := by
  have hvalue : Relates grammar input
      (fun offset (pair : α × Nat) next => R offset pair.1 next ∧ pair.2 = next)
      ((p.both .currentOffset).action grammar input call fuel) := by
    refine h.zipWith relates_currentOffset hstop ?_
    rintro offset a middle _ _ hR ⟨rfl, rfl, -⟩
    exact ⟨hR, rfl⟩
  have hall : Relates grammar input
      (fun offset (parts : Nat × α × Nat) next =>
        R offset parts.2.1 next ∧ parts.2.2 = next ∧ parts.1 = offset)
      ((Parser.currentOffset.both (p.both .currentOffset)).action grammar input call fuel) := by
    refine relates_currentOffset.zipWith hvalue (fun hstart => hstart.2.2) ?_
    rintro offset _ _ pair next ⟨rfl, rfl, -⟩ ⟨hR, hnext⟩
    exact ⟨hR, hnext, rfl⟩
  exact hall.map fun hparts => ⟨hparts.2.2, hparts.2.1, hparts.1⟩

end Relates

end Action

end Descent
