import Descent.Proofs.Anchoring
import Descent.Proofs.Matching

/-!
# Lossless parsers

The characters in a value, read off from left to right, are its spelling. A parser that neither
drops nor rewrites what it reads consumes the spelling of its value: nothing is lost, doubled or
moved, and an alternative that was given up leaves nothing behind.
-/

namespace Descent

/-- Values with a spelling: the characters in them, from left to right. -/
class Spelled (α : Type) where
  spelling : α → Text

namespace Spelled

variable {α β : Type}

instance : Spelled Char where
  spelling c := [c]

instance : Spelled String where
  spelling := String.toList

instance : Spelled Unit where
  spelling _ := []

instance [Spelled α] [Spelled β] : Spelled (α × β) where
  spelling pair := spelling pair.1 ++ spelling pair.2

instance [Spelled α] : Spelled (List α) where
  spelling values := values.flatMap spelling

instance [Spelled α] : Spelled (Mark α) where
  spelling mark := spelling mark.value

end Spelled

open Spelled

namespace Text

theorem eq_of_slice? {t m : Text} {stop : Nat} (h : t.slice? 0 stop = some m)
    (hstop : t.size ≤ stop) : m = t := by
  obtain ⟨a, b, rfl, ha, rfl⟩ := slice?_eq_some_iff.mp h
  obtain rfl : a = [] := size_eq_zero_iff.mp ha
  obtain rfl : b = [] := by
    rw [← size_eq_zero_iff]
    simp only [size_append] at hstop
    omega
  simp

end Text

variable {S : Signature} {α β γ : Type}

namespace Action

/-- From a boundary on, a match consumes what its value spells. -/
def Consumes (grammar : Grammar S) (input : Text) (spell : α → Text) (action : Action S α) : Prop :=
  ∀ ⦃offset : Nat⦄ ⦃memory : Memory S⦄ ⦃run : Run S α⦄, memory.cells.Faithful grammar →
    input.IsBoundary offset → action offset memory = some run →
      run.memory.cells.Faithful grammar ∧
        ∀ value next, run.outcome = .matched value next →
          input.slice? offset next = some (spell value)

variable {grammar : Grammar S} {input : Text} {spell : α → Text} {action : Action S α}

theorem consumes_yield {value : α} (h : spell value = []) :
    Consumes grammar input spell (yield value) :=
  relates_yield fun hoffset => by rw [h]; exact Text.slice?_self hoffset

theorem consumes_lexeme {l : Lexeme α}
    (h : ∀ text value count, l.read? text = some (value, count) → spell value = text.take count) :
    Consumes grammar input spell (l.run input) := by
  refine relates_lexeme ?_
  intro before rest value count hinput hread
  rw [h rest value count hread]
  refine Text.slice?_eq_some_iff.mpr ⟨before, rest.drop count, ?_, rfl, rfl⟩
  rw [List.append_assoc, List.take_append_drop, hinput]

namespace Consumes

theorem zipWith {spell' : β → Text} {spell'' : γ → Text} {second : Action S β} {f : α → β → γ}
    (h : Consumes grammar input spell action) (h' : Consumes grammar input spell' second)
    (hf : ∀ a b, spell'' (f a b) = spell a ++ spell' b) :
    Consumes grammar input spell'' (action.bind fun a => second.map (f a)) := by
  refine Relates.zipWith h h' Text.isBoundary_of_slice? ?_
  intro offset a middle b stop hfirst hsecond
  rw [hf]
  exact Text.slice?_append hfirst hsecond

theorem times (h : Consumes grammar input spell action) (bounds : Bounds) (fuel : Nat) :
    Consumes grammar input (·.flatMap spell) (action.times bounds fuel) := by
  refine Relates.times h Text.isBoundary_of_slice? Text.slice?_self ?_ bounds fuel
  exact fun hfirst hrest => Text.slice?_append hfirst hrest

end Consumes

end Action

namespace Action

section Vocabulary

variable {grammar : Grammar S} {input : Text} {call : (α : Type) → Parser S α → Action S α}
  {fuel : Nat}

theorem consumes_literal (text : String) :
    Consumes grammar input String.toList
      ((Parser.literal text).action grammar input call fuel) := by
  refine consumes_lexeme ?_
  intro rest value count hread
  simp only [Lexeme.literal] at hread
  split at hread
  · next hprefix =>
    cases hread
    rw [← String.length_toList]
    exact List.prefix_iff_eq_take.mp (List.isPrefixOf_iff_prefix.mp hprefix)
  · cases hread

theorem consumes_pattern {source : String} {compiled : Pattern}
    (h : Pattern.compile source = .ok compiled) :
    Consumes grammar input String.toList
      ((Parser.pattern compiled).action grammar input call fuel) := by
  refine consumes_lexeme ?_
  intro text value count hread
  rw [Pattern.value_of_read?_zero h hread, String.toList_ofList]

theorem consumes_sequence {spell : β → Text} {ps : List (Parser S β)}
    (h : ∀ p ∈ ps, Consumes grammar input spell (p.action grammar input call fuel)) :
    Consumes grammar input (·.flatMap spell)
      ((Parser.sequence ps).action grammar input call fuel) := by
  induction ps with
  | nil => exact consumes_yield rfl
  | cons p ps ih =>
    rw [List.forall_mem_cons] at h
    exact h.1.zipWith (ih h.2) fun value values => List.flatMap_cons

theorem consumes_alt {spell : β → Text} {p : Parser S β} {ps : List (Parser S β)}
    (hp : Consumes grammar input spell (p.action grammar input call fuel))
    (hps : ∀ q ∈ ps, Consumes grammar input spell (q.action grammar input call fuel)) :
    Consumes grammar input spell ((Parser.alt p ps).action grammar input call fuel) := by
  induction ps generalizing p with
  | nil => exact hp
  | cons q ps ih =>
    rw [List.forall_mem_cons] at hps
    exact ih (Relates.orElse hp hps.1) hps.2

theorem consumes_builtIn (source : String) :
    Consumes grammar input String.toList
      ((Parser.builtIn source).action grammar input call fuel) := by
  cases h : Pattern.compile source with
  | ok compiled =>
    rw [Parser.builtIn_eq_pattern h]
    exact consumes_pattern h
  | error e =>
    rw [Parser.builtIn_eq_fault h]
    exact relates_faulting _

theorem consumes_anyChar :
    Consumes grammar input (fun c => [c]) (Parser.anyChar.action grammar input call fuel) := by
  refine consumes_lexeme ?_
  intro text value count hread
  cases text with
  | nil => cases hread
  | cons c text =>
    cases hread
    rfl

theorem consumes_remainder :
    Consumes grammar input String.toList (Parser.remainder.action grammar input call fuel) := by
  refine consumes_lexeme ?_
  rintro text value count ⟨⟩
  rw [String.toList_ofList, List.take_length]

end Vocabulary

end Action

namespace Parser

/-- Built from parsers that give back what they consume, by operators that keep all values in the
order in which they were read. -/
inductive IsLossless [∀ rule, Spelled (S.Result rule)] :
    {α : Type} → [Spelled α] → Parser S α → Prop where
  | literal (text : String) : IsLossless (Parser.literal text)
  | pattern {source : String} {compiled : Pattern} (h : Pattern.compile source = .ok compiled) :
    IsLossless (Parser.pattern compiled)
  | builtIn (source : String) : IsLossless (Parser.builtIn source)
  | anyChar : IsLossless Parser.anyChar
  | remainder : IsLossless Parser.remainder
  | endOfInput : IsLossless Parser.endOfInput
  | never {α : Type} [Spelled α] (expected : String) :
    IsLossless (Parser.never expected : Parser S α)
  | both {α β : Type} [Spelled α] [Spelled β] {p : Parser S α} {q : Parser S β}
    (hp : IsLossless p) (hq : IsLossless q) : IsLossless (p.both q)
  | sequence {α : Type} [Spelled α] {ps : List (Parser S α)} (h : ∀ p ∈ ps, IsLossless p) :
    IsLossless (Parser.sequence ps)
  | orElse {α : Type} [Spelled α] {p q : Parser S α} (hp : IsLossless p) (hq : IsLossless q) :
    IsLossless (p.orElse q)
  | alt {α : Type} [Spelled α] {p : Parser S α} {ps : List (Parser S α)} (hp : IsLossless p)
    (hps : ∀ q ∈ ps, IsLossless q) : IsLossless (Parser.alt p ps)
  | times {α : Type} [Spelled α] {p : Parser S α} (hp : IsLossless p) (bounds : Bounds) :
    IsLossless (p.times bounds)
  | mark {α : Type} [Spelled α] {p : Parser S α} (hp : IsLossless p) : IsLossless p.mark
  | lazy (slot : Nat) (rule : S.Rule) : IsLossless (Parser.lazy slot rule)
  /-- A value may be put into another shape with the same spelling. -/
  | reshape {α β : Type} [Spelled α] [Spelled β] {f : α → β} {p : Parser S α} (hp : IsLossless p)
    (hf : ∀ a, spelling (f a) = spelling a) : IsLossless (p.map f)

end Parser

/-- The bodies of all rules are lossless. -/
def Grammar.IsLossless [∀ rule, Spelled (S.Result rule)] (grammar : Grammar S) : Prop :=
  ∀ rule, (grammar.body rule).IsLossless

namespace Parser

variable [∀ rule, Spelled (S.Result rule)] [Spelled α] {grammar : Grammar S} {input : Text}

theorem IsLossless.consumes {call : (α : Type) → Parser S α → Action S α} {fuel : Nat}
    {p : Parser S α}
    (hcall : ∀ rule, Action.Consumes grammar input spelling (call _ (grammar.body rule)))
    (hp : p.IsLossless) :
    Action.Consumes grammar input spelling (p.action grammar input call fuel) := by
  induction hp with
  | literal text => exact Action.consumes_literal text
  | pattern h => exact Action.consumes_pattern h
  | builtIn source => exact Action.consumes_builtIn source
  | anyChar => exact Action.consumes_anyChar
  | remainder => exact Action.consumes_remainder
  | endOfInput => exact Action.relates_endOfInput Text.slice?_self
  | never expected => exact Action.relates_failing expected
  | both hp hq ihp ihq => exact ihp.zipWith ihq fun a b => rfl
  | sequence h ih => exact Action.consumes_sequence ih
  | orElse hp hq ihp ihq => exact Action.Relates.orElse ihp ihq
  | alt hp hps ihp ihps => exact Action.consumes_alt ihp ihps
  | times hp bounds ih => exact ih.times bounds fuel
  | mark hp ih =>
    have hmark := Action.Relates.mark ih Text.isBoundary_of_slice?
    exact hmark.mono fun _ hparts => hparts.2.2
  | lazy slot rule => exact Action.Relates.lazy (hcall rule) slot
  | reshape hp hf ih =>
    refine Action.Relates.map ih ?_
    intro offset a next hslice
    rw [hf]
    exact hslice

theorem consumes_runWithin (hg : grammar.IsLossless) (fuel : Nat) {p : Parser S α}
    (hp : p.IsLossless) :
    Action.Consumes grammar input spelling (p.runWithin grammar input fuel) := by
  induction fuel generalizing α p with
  | zero => exact Action.relates_unfinished
  | succ fuel ih => exact hp.consumes fun rule => ih (hg rule)

/-- At every boundary a match of a lossless parser consumes exactly what its value spells, and a
value that is accepted spells the whole input. -/
theorem slice?_eq_spelling (hg : grammar.IsLossless) {p : Parser S α} (hp : p.IsLossless)
    {cells : Cells S} (hcells : cells.Faithful grammar) (input : Text) (fuel : Nat) :
    (∀ offset tracker run value next, input.IsBoundary offset →
      p.runWithin grammar input fuel offset ⟨tracker, cells⟩ = some run →
        run.outcome = .matched value next → input.slice? offset next = some (spelling value)) ∧
    ∀ parse value, p.parseWithin fuel grammar input cells = some parse →
      parse.verdict = .accepted value → spelling value = input := by
  have hruns : ∀ offset tracker run value next, input.IsBoundary offset →
      p.runWithin grammar input fuel offset ⟨tracker, cells⟩ = some run →
        run.outcome = .matched value next → input.slice? offset next = some (spelling value) := by
    intro offset tracker run value next hoffset hrun
    exact (consumes_runWithin hg fuel hp hcells hoffset hrun).2 value next
  refine ⟨hruns, ?_⟩
  intro parse value hparse haccepted
  obtain ⟨run, hrun, rfl⟩ := Option.map_eq_some_iff.mp hparse
  obtain ⟨next, hmatched, hend⟩ := Parse.matched_of_accepted haccepted
  have hslice := hruns 0 .empty run value next (Text.isBoundary_zero input) hrun hmatched
  exact Text.eq_of_slice? hslice hend

end Parser

/-- Letters and brackets; a bracket that is never closed stands for itself. -/
abbrev Brackets : Signature where
  Rule := Unit
  Result _ := String
  decEq := inferInstance

namespace Brackets

instance (rule : Brackets.Rule) : Spelled (Brackets.Result rule) :=
  inferInstanceAs (Spelled String)

def group : Parser Brackets String :=
  (Parser.sequence [.literal "(", .lazy 0 (), .literal ")"]).map String.join

def item : Parser Brackets String :=
  .alt group [.letter, .literal "é", .literal "("]

def grammar : Grammar Brackets where
  body _ := item.many.map String.join
  foreign _ := []

theorem spelling_join (values : List String) : spelling (String.join values) = spelling values :=
  String.toList_join

theorem isLossless_group : group.IsLossless := by
  refine .reshape (.sequence ?_) spelling_join
  intro p hp
  simp only [List.mem_cons, List.not_mem_nil, or_false] at hp
  rcases hp with rfl | rfl | rfl
  · exact .literal "("
  · exact Parser.IsLossless.lazy (S := Brackets) 0 ()
  · exact .literal ")"

theorem isLossless_item : item.IsLossless := by
  refine .alt isLossless_group ?_
  intro p hp
  simp only [List.mem_cons, List.not_mem_nil, or_false] at hp
  rcases hp with rfl | rfl | rfl
  · exact .builtIn "[a-zA-Z]"
  · exact .literal "é"
  · exact .literal "("

theorem isLossless_grammar : grammar.IsLossless :=
  fun _ => .reshape (.times isLossless_item _) spelling_join

/-- The first bracket is read twice: as the beginning of a group, which is given up, and then for
itself. The second one is that of a group. -/
theorem marks_spelling :
    (∃ run, item.mark.many.runWithin grammar "(é(a)".toList 9 1 ⟨.empty, .empty⟩ = some run ∧
      run.outcome = .matched [⟨1, "é", 3⟩, ⟨3, "(a)", 6⟩] 6 ∧
        Text.slice? "(é(a)".toList 1 6 =
          some (spelling [(⟨1, "é", 3⟩ : Mark String), ⟨3, "(a)", 6⟩])) ∧
    ∃ parse, item.mark.many.parseWithin 9 grammar "(é(a)".toList .empty = some parse ∧
      parse.verdict = .accepted [⟨0, "(", 1⟩, ⟨1, "é", 3⟩, ⟨3, "(a)", 6⟩] ∧
        spelling [(⟨0, "(", 1⟩ : Mark String), ⟨1, "é", 3⟩, ⟨3, "(a)", 6⟩] = "(é(a)".toList := by
  have houtcome : ((item.mark.many.runWithin grammar "(é(a)".toList 9 1 ⟨.empty, .empty⟩).map
      (·.outcome)) = some (.matched [⟨1, "é", 3⟩, ⟨3, "(a)", 6⟩] 6) := by
    decide +kernel
  have hverdict : ((item.mark.many.parseWithin 9 grammar "(é(a)".toList .empty).map
      (·.verdict)) = some (.accepted [⟨0, "(", 1⟩, ⟨1, "é", 3⟩, ⟨3, "(a)", 6⟩]) := by
    decide +kernel
  have hboundary : Text.IsBoundary "(é(a)".toList 1 := ⟨['('], ['é', '(', 'a', ')'], rfl, by decide⟩
  obtain ⟨run, hrun, hmatched⟩ := Option.map_eq_some_iff.mp houtcome
  obtain ⟨parse, hparse, haccepted⟩ := Option.map_eq_some_iff.mp hverdict
  obtain ⟨hruns, hwhole⟩ := Parser.slice?_eq_spelling isLossless_grammar
    (.times (.mark isLossless_item) _) Cells.faithful_empty "(é(a)".toList 9
  exact ⟨⟨run, hrun, hmatched, hruns 1 .empty run _ 6 hboundary hrun hmatched⟩,
    ⟨parse, hparse, haccepted, hwhole parse _ hparse haccepted⟩⟩

end Brackets

end Descent
