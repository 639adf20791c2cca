import Descent.Proofs.Noninterference

/-!
# What lies before the offset does not matter

A parser that is never told its offset sees the remaining text alone. Its run in the middle of an
input is the run at the beginning of what remains there, moved by the size of what lies before.
-/

namespace Descent

variable {S : Signature} {α : Type} {grammar : Grammar S}

def Failure.moved (n : Nat) (failure : Failure) : Failure where
  offset := n + failure.offset
  expected := failure.expected

def Outcome.moved (n : Nat) : Outcome α → Outcome α
  | matched value next => matched value (n + next)
  | failed failure => failed (failure.moved n)
  | faulted fault => faulted fault

/-- Nothing in it is told the offset: it is not asked for, and there are no custom functions. -/
def Parser.IsPlaceless : {α : Type} → Parser S α → Prop
  | _, .lexeme _ => True
  | _, .endOfInput => True
  | _, .always _ => True
  | _, .never _ => True
  | _, .currentOffset => False
  | _, .map _ p => p.IsPlaceless
  | _, .bind p next => p.IsPlaceless ∧ ∀ value, (next value).IsPlaceless
  | _, .zipWith _ p q => p.IsPlaceless ∧ q.IsPlaceless
  | _, .orElse p q => p.IsPlaceless ∧ q.IsPlaceless
  | _, .times p _ => p.IsPlaceless
  | _, .lazy _ _ => True
  | _, .probe _ p => p.IsPlaceless
  | _, .custom _ => False
  | _, .fault _ => True

def Grammar.IsPlaceless (grammar : Grammar S) : Prop :=
  ∀ rule, (grammar.body rule).IsPlaceless

namespace Text

theorem after?_append (a b : Text) (n : Nat) : after? (a ++ b) (size a + n) = after? b n := by
  ext rest
  rw [after?_eq_some_iff, after?_eq_some_iff]
  constructor
  · rintro ⟨front, hsplit, hsize⟩
    rcases List.append_eq_append_iff.mp hsplit with ⟨taken, rfl, hb⟩ | ⟨taken, rfl, rfl⟩
    · refine ⟨taken, hb, ?_⟩
      rw [size_append] at hsize
      omega
    · -- The cut would lie before the end of `a`, so nothing lies between the two.
      have htaken : taken = [] := by
        rw [← size_eq_zero_iff]
        rw [size_append] at hsize
        omega
      subst htaken
      refine ⟨[], rfl, ?_⟩
      rw [List.append_nil] at hsize
      rw [size_nil]
      omega
  · rintro ⟨front, rfl, rfl⟩
    exact ⟨a ++ front, by simp, size_append a front⟩

theorem isAtEnd_append (a b : Text) (n : Nat) :
    isAtEnd (a ++ b) (size a + n) = isAtEnd b n := by
  simp [isAtEnd]

end Text

namespace Coupling

/-- The same reports after a move by `n`; the trackers are free, the cells faithful. -/
def moved (grammar : Grammar S) (n : Nat) : Coupling S S where
  offsets offset offset' := offset = n + offset'
  trackers _ _ := True
  cells cells cells' := cells.Faithful grammar ∧ cells'.Faithful grammar
  events xs ys := Event.reports xs = (Event.reports ys).map (Failure.moved n)
  events_nil := by
    rw [Event.reports_nil, List.map_nil]
  events_append := by
    intro xs xs' ys ys' hx hy
    rw [Event.reports_append, Event.reports_append, List.map_append, hx, hy]

variable {n : Nat} {a b : Text}

theorem moved_observing : (moved grammar n).Observing := by
  rintro _ offset t t' expected rfl -
  refine ⟨?_, trivial⟩
  change Event.reports _ = (Event.reports _).map _
  rw [Event.reports_observe, Event.reports_observe]
  rfl

theorem moved_onReports : (moved grammar n).OnReports grammar grammar where
  cells := rfl
  events := by
    intro xs ys hx hy
    change Event.reports _ = (Event.reports _).map _
    rw [hx, hy]
    rfl

theorem moved_sameRest : (moved grammar a.size).SameRest (a ++ b) b where
  after? := by
    rintro _ offset rfl
    exact Text.after?_append a b offset
  isAtEnd := by
    rintro _ offset rfl
    exact Text.isAtEnd_append a b offset
  add := by
    rintro _ offset rfl n
    exact Nat.add_assoc a.size offset n

theorem Outcomes.eq_moved {outcome outcome' : Outcome α}
    (h : (moved grammar n).Outcomes outcome outcome') : outcome = outcome'.moved n := by
  cases h with
  | matched value h =>
    cases h
    rfl
  | @failed failure failure' h he =>
    obtain ⟨offset, expected⟩ := failure
    cases h
    cases he
    rfl
  | faulted fault => rfl

end Coupling

namespace Parser

variable {C : Coupling S S} {input input' : Text}

theorem simulates_action_placeless (hrest : C.SameRest input input') (hobserving : C.Observing)
    (hreports : C.OnReports grammar grammar) {call : (α : Type) → Parser S α → Action S α}
    {call' : (α : Type) → Parser S α → Action S α} (fuel : Nat)
    (hcall : ∀ rule, C.Simulates (call _ (grammar.body rule)) (call' _ (grammar.body rule)))
    {p : Parser S α} (hp : p.IsPlaceless) :
    C.Simulates (p.action grammar input call fuel) (p.action grammar input' call' fuel) := by
  induction p with
  | lexeme l => exact Coupling.simulates_lexeme hrest hobserving l
  | endOfInput => exact Coupling.simulates_endOfInput hrest hobserving
  | always value => exact Coupling.simulates_yield value
  | never expected => exact Coupling.simulates_failing hobserving expected
  | currentOffset => exact hp.elim
  | map f p ih => exact (ih hp).map f
  | bind p next ihp ihn => exact (ihp hp.1).bind fun value => ihn value (hp.2 value)
  | zipWith f p q ihp ihq => exact (ihp hp.1).bind fun a => (ihq hp.2).map (f a)
  | orElse p q ihp ihq => exact (ihp hp.1).orElse (ihq hp.2)
  | times p bounds ih => exact (ih hp).times bounds (Nat.le_refl fuel)
  | lazy slot rule => exact hreports.lazy_right (hreports.lazy_left (hcall rule) slot) slot
  | probe name p ih => exact hreports.probed_right (hreports.probed_left (ih hp) name) name
  | custom act => exact hp.elim
  | fault cause => exact Coupling.simulates_faulting cause

theorem simulates_runWithin_placeless (hrest : C.SameRest input input')
    (hobserving : C.Observing) (hreports : C.OnReports grammar grammar)
    (hg : grammar.IsPlaceless) (fuel : Nat) {p : Parser S α} (hp : p.IsPlaceless) :
    C.Simulates (p.runWithin grammar input fuel) (p.runWithin grammar input' fuel) := by
  induction fuel generalizing α with
  | zero => exact Coupling.simulates_unfinished
  | succ fuel ih =>
    exact simulates_action_placeless hrest hobserving hreports fuel (fun rule => ih (hg rule)) hp

/-- With anything before it, a text is parsed in the same way: the runs are both unfinished, or end
alike after the same reports, except that all offsets are larger by the size of what is before. -/
theorem runWithin_append (hg : grammar.IsPlaceless) {p : Parser S α} (hp : p.IsPlaceless)
    (a b : Text) (fuel offset : Nat) {cells cells' : Cells S} (hcells : cells.Faithful grammar)
    (hcells' : cells'.Faithful grammar) (t t' : Tracker) :
    p.runWithin grammar (a ++ b) fuel (a.size + offset) ⟨t, cells⟩ = none ∧
        p.runWithin grammar b fuel offset ⟨t', cells'⟩ = none ∨
      ∃ run run', p.runWithin grammar (a ++ b) fuel (a.size + offset) ⟨t, cells⟩ = some run ∧
        p.runWithin grammar b fuel offset ⟨t', cells'⟩ = some run' ∧
        run.outcome = run'.outcome.moved a.size ∧
        Event.reports run.events = (Event.reports run'.events).map (Failure.moved a.size) := by
  have hrest : (Coupling.moved grammar a.size).SameRest (a ++ b) b := Coupling.moved_sameRest
  have hobserving : (Coupling.moved grammar a.size).Observing := Coupling.moved_observing
  have hreports : (Coupling.moved grammar a.size).OnReports grammar grammar :=
    Coupling.moved_onReports
  have hsim := simulates_runWithin_placeless hrest hobserving hreports hg fuel hp
  have hback := simulates_runWithin_placeless hrest.flip hobserving.flip hreports.flip hg fuel hp
  have hmemory : (Coupling.moved grammar a.size).Memories ⟨t, cells⟩ ⟨t', cells'⟩ :=
    ⟨trivial, hcells, hcells'⟩
  rcases hsim.cases hback rfl hmemory with hnone | ⟨run, run', hrun, hrun', hruns⟩
  · exact .inl hnone
  · exact .inr ⟨run, run', hrun, hrun', hruns.outcomes.eq_moved, hruns.events⟩

end Parser

theorem Nested.isPlaceless_grammar : Nested.grammar.IsPlaceless := by
  intro rule
  simp [Nested.grammar, nest, inParentheses, Parser.literal, Parser.andThen, Parser.skip,
    Parser.result, Parser.IsPlaceless]

theorem Nested.isPlaceless_inParentheses : inParentheses.IsPlaceless := by
  simp [inParentheses, Parser.literal, Parser.andThen, Parser.skip, Parser.IsPlaceless]

/-- A character of two bytes and a parenthesis before the text move all offsets by three. -/
theorem Nested.inParentheses_append :
    ∃ run run',
      inParentheses.runWithin Nested.grammar ("é)".toList ++ "((é".toList) 9 3
        ⟨.empty, .empty⟩ = some run ∧
      inParentheses.runWithin Nested.grammar "((é".toList 9 0 ⟨.empty, .empty⟩ = some run' ∧
      run'.outcome = .failed ⟨1, "')'"⟩ ∧ run.outcome = .failed ⟨4, "')'"⟩ ∧
      Event.reports run.events = [⟨5, "'('"⟩, ⟨5, "')'"⟩, ⟨4, "')'"⟩] := by
  have hsummary : ((inParentheses.runWithin Nested.grammar "((é".toList 9 0 ⟨.empty, .empty⟩).map
      fun run => (run.outcome, Event.reports run.events)) =
        some (.failed ⟨1, "')'"⟩, [⟨2, "'('"⟩, ⟨2, "')'"⟩, ⟨1, "')'"⟩]) := by
    decide +kernel
  obtain ⟨first, hfirst, hboth⟩ := Option.map_eq_some_iff.mp hsummary
  obtain ⟨hfailed, hreports⟩ := Prod.mk.inj hboth
  rcases Parser.runWithin_append isPlaceless_grammar isPlaceless_inParentheses "é)".toList
      "((é".toList 9 0 Cells.faithful_empty Cells.faithful_empty .empty .empty with
    ⟨-, hnone⟩ | ⟨run, run', hrun, hrun', hout, hmoved⟩
  · cases hnone.symm.trans hfirst
  · obtain rfl : first = run' := Option.some.inj (hfirst.symm.trans hrun')
    have hsize : Text.size "é)".toList = 3 := by decide
    rw [hsize] at hrun hout hmoved
    rw [hfailed] at hout
    rw [hreports] at hmoved
    exact ⟨run, first, hrun, hfirst, hfailed, hout, hmoved⟩

end Descent
