import Descent.Proofs.LineIndex
import Descent.Proofs.Matching
import Descent.Proofs.OffsetSafety

/-!
# Marks lie in order

The marks in a value form a forest. Where values keep their marks in the order in which they were
read, the spans of the forest are nested like the marks and lie one behind the other like them,
whatever was backtracked over or dropped between them. The marks of a repetition leave no gap.
-/

namespace Descent

/-- Marks from left to right, each with those inside it. -/
inductive Marks where
  | none
  | mark (start stop : Nat) (inner rest : Marks)
deriving DecidableEq, Repr

namespace Marks

protected def append : Marks → Marks → Marks
  | none, ys => ys
  | mark start stop inner rest, ys => mark start stop inner (rest.append ys)

instance : Append Marks where
  append := Marks.append

/-- The outermost marks by number. -/
def get? : Marks → Nat → Option (Mark Marks)
  | none, _ => .none
  | mark start stop inner _, 0 => some { start, value := inner, stop }
  | mark _ _ _ rest, n + 1 => rest.get? n

/-- The marks lie between `start` and `stop`, one behind the other and each around those inside
it, with all ends on boundaries. -/
def Laid (input : Text) : Nat → Marks → Nat → Prop
  | start, none, stop => input.Reaches start stop
  | start, mark first last inner rest, stop =>
    input.Reaches start first ∧ inner.Laid input first last ∧ rest.Laid input last stop

end Marks

/-- The mark at an address: the numbers of the marks to go into, from the outside inwards. -/
def Mark.at? (mark : Mark Marks) : List Nat → Option (Mark Marks)
  | [] => some mark
  | n :: address => (mark.value.get? n).bind fun inner => inner.at? address

/-- Values with marks in them. -/
class Marked (α : Type) where
  marks : α → Marks

namespace Marked

variable {α β : Type}

instance : Marked Char where
  marks _ := .none

instance : Marked String where
  marks _ := .none

instance : Marked Unit where
  marks _ := .none

instance : Marked Nat where
  marks _ := .none

instance : Marked Marks where
  marks := id

instance [Marked α] [Marked β] : Marked (α × β) where
  marks pair := marks pair.1 ++ marks pair.2

instance [Marked α] : Marked (List α) where
  marks values := values.foldr (fun value rest => marks value ++ rest) .none

instance [Marked α] : Marked (Mark α) where
  marks mark := .mark mark.start mark.stop (marks mark.value) .none

end Marked

open Marked

variable {S : Signature} {α β γ : Type} {input : Text}

namespace Marks

variable {start middle stop : Nat} {marks more : Marks}

theorem append_none (marks : Marks) : marks ++ none = marks := by
  induction marks with
  | none => rfl
  | mark first last inner rest _ ih => exact congrArg (mark first last inner) ih

namespace Laid

theorem reaches (h : marks.Laid input start stop) : input.Reaches start stop := by
  induction marks generalizing start stop with
  | none => exact h
  | mark first last inner rest ihi ihr =>
    obtain ⟨hfirst, hinner, hrest⟩ := h
    exact (hfirst.trans (ihi hinner)).trans (ihr hrest)

theorem after (hstart : input.Reaches start middle) (h : marks.Laid input middle stop) :
    marks.Laid input start stop := by
  cases marks with
  | none => exact hstart.trans h
  | mark first last inner rest => exact ⟨hstart.trans h.1, h.2⟩

theorem append (h : marks.Laid input start middle) (h' : more.Laid input middle stop) :
    (marks ++ more).Laid input start stop := by
  induction marks generalizing start with
  | none => exact h'.after h
  | mark first last inner rest _ ih => exact ⟨h.1, h.2.1, ih h.2.2⟩

theorem before (h : marks.Laid input start middle) (hstop : input.Reaches middle stop) :
    marks.Laid input start stop := by
  rw [← append_none marks]
  exact h.append hstop

end Laid

end Marks

/-- A mark starts on a boundary, and the marks inside it lie between its ends. -/
def Mark.IsLaid (input : Text) (mark : Mark Marks) : Prop :=
  input.IsBoundary mark.start ∧ mark.value.Laid input mark.start mark.stop

/-- The inner span lies within the outer one, and is laid itself. -/
structure Mark.Within (input : Text) (inner outer : Mark Marks) : Prop where
  start : input.Reaches outer.start inner.start
  laid : inner.IsLaid input
  stop : input.Reaches inner.stop outer.stop

namespace Marks.Laid

variable {start stop i j : Nat} {marks : Marks} {left right inner : Mark Marks}

theorem within (h : marks.Laid input start stop) (hget : marks.get? i = some inner) :
    inner.Within input ⟨start, marks, stop⟩ := by
  induction marks generalizing start i with
  | none => cases hget
  | mark first last inside rest _ ih =>
    obtain ⟨hfirst, hinside, hrest⟩ := h
    cases i with
    | zero =>
      cases hget
      exact ⟨hfirst, ⟨hfirst.isBoundary, hinside⟩, hrest.reaches⟩
    | succ i =>
      obtain ⟨hstart, hlaid, hstop⟩ := ih hrest hget
      exact ⟨(hfirst.trans hinside.reaches).trans hstart, hlaid, hstop⟩

/-- A mark with a smaller number ends before one with a greater number starts. -/
theorem stop_le_start (h : marks.Laid input start stop) (hij : i < j)
    (hleft : marks.get? i = some left) (hright : marks.get? j = some right) :
    left.stop ≤ right.start := by
  induction marks generalizing start i j with
  | none => cases hleft
  | mark first last inside rest _ ih =>
    obtain ⟨hfirst, hinside, hrest⟩ := h
    obtain ⟨j, rfl⟩ : ∃ n, j = n + 1 := ⟨j - 1, by omega⟩
    cases i with
    | zero =>
      cases hleft
      exact (hrest.within hright).start.start_le
    | succ i => exact ih hrest (by omega) hleft hright

end Marks.Laid

namespace Mark

variable {mark inner left right : Mark Marks}

theorem at?_append (mark : Mark Marks) (address more : List Nat) :
    mark.at? (address ++ more) = (mark.at? address).bind (·.at? more) := by
  induction address generalizing mark with
  | nil => rfl
  | cons n address ih =>
    show (mark.value.get? n).bind _ = ((mark.value.get? n).bind _).bind _
    rw [Option.bind_assoc]
    congr 1
    funext inner
    exact ih inner

theorem IsLaid.within (h : mark.IsLaid input) {address : List Nat}
    (hinner : mark.at? address = some inner) : inner.Within input mark := by
  induction address generalizing mark with
  | nil =>
    cases hinner
    exact ⟨h.1.reaches_self, h, h.2.reaches.isBoundary.reaches_self⟩
  | cons n address ih =>
    obtain ⟨middle, hmiddle, hinner⟩ := Option.bind_eq_some_iff.mp hinner
    have houter := h.2.within hmiddle
    obtain ⟨hstart, hlaid, hstop⟩ := ih houter.laid hinner
    exact ⟨houter.start.trans hstart, hlaid, hstop.trans houter.stop⟩

/-- Where the addresses part, the smaller number leads to the mark that ends first. -/
theorem IsLaid.stop_le_start (h : mark.IsLaid input) {address other : List Nat}
    (hlt : address < other) (hout : ¬ address <+: other) (hleft : mark.at? address = some left)
    (hright : mark.at? other = some right) : left.stop ≤ right.start := by
  induction address generalizing mark other with
  | nil => exact absurd List.nil_prefix hout
  | cons i address ih =>
    cases other with
    | nil => cases hlt
    | cons j other =>
      obtain ⟨first, hfirst, hleft⟩ := Option.bind_eq_some_iff.mp hleft
      obtain ⟨second, hsecond, hright⟩ := Option.bind_eq_some_iff.mp hright
      have hlaid := (h.2.within hfirst).laid
      -- The addresses part at this number, or go into the same mark and part further inside.
      rcases List.cons_lt_cons_iff.mp hlt with hij | ⟨rfl, hbehind⟩
      · have hlaid' := (h.2.within hsecond).laid
        calc left.stop ≤ first.stop := (hlaid.within hleft).stop.start_le
          _ ≤ second.start := h.2.stop_le_start hij hfirst hsecond
          _ ≤ right.start := (hlaid'.within hright).start.start_le
      · cases hfirst.symm.trans hsecond
        refine ih hlaid hbehind (fun hprefix => hout ?_) hleft hright
        exact List.cons_prefix_cons.mpr ⟨rfl, hprefix⟩

/-- The marks in `whole` are nested and ordered as their addresses are. They have their ends on
boundaries within it, so their texts can be cut out and their lines can be told. -/
structure IsLaminar (input : Text) (whole : Mark Marks) : Prop where
  ends : ∀ address mark, whole.at? address = some mark →
    whole.start ≤ mark.start ∧ mark.start ≤ mark.stop ∧ mark.stop ≤ whole.stop
  boundaries : ∀ address mark, whole.at? address = some mark →
    input.IsBoundary mark.start ∧ input.IsBoundary mark.stop
  text : ∀ address mark, whole.at? address = some mark → (mark.text? input).isSome
  lines : ∀ address mark, whole.at? address = some mark →
    ∃ first last, (LineIndex.ofText input).resolve? mark.start = some first ∧
      (LineIndex.ofText input).resolve? mark.stop = some last ∧ first ≤ last
  nested : ∀ address other outer inner, whole.at? address = some outer →
    whole.at? other = some inner → address <+: other →
      outer.start ≤ inner.start ∧ inner.stop ≤ outer.stop
  ordered : ∀ address other left right, whole.at? address = some left →
    whole.at? other = some right → address < other → ¬ address <+: other →
      left.stop ≤ right.start

theorem IsLaid.isLaminar {whole : Mark Marks} (h : whole.IsLaid input) :
    whole.IsLaminar input where
  ends address mark hmark := by
    have hwithin := h.within hmark
    exact ⟨hwithin.start.start_le, hwithin.laid.2.reaches.start_le, hwithin.stop.start_le⟩
  boundaries address mark hmark := by
    have hlaid := (h.within hmark).laid
    exact ⟨hlaid.1, hlaid.2.reaches.isBoundary⟩
  text address mark hmark := by
    have hlaid := (h.within hmark).laid
    exact Text.isSome_slice? hlaid.1 hlaid.2.reaches
  lines address mark hmark := by
    have hlaid := (h.within hmark).laid
    obtain ⟨text, htext⟩ := Option.isSome_iff_exists.mp
      (Text.isSome_slice? hlaid.1 hlaid.2.reaches)
    exact LineIndex.resolve?_le_resolve? htext
  nested address other outer inner houter hinner hprefix := by
    obtain ⟨more, rfl⟩ := hprefix
    rw [at?_append, houter, Option.bind_some] at hinner
    have hwithin := (h.within houter).laid.within hinner
    exact ⟨hwithin.start.start_le, hwithin.stop.start_le⟩
  ordered address other left right hleft hright hlt hout :=
    h.stop_le_start hlt hout hleft hright

end Mark

/-- The marks follow one another from `start` to `stop` without a gap, and so do their texts. -/
structure Tiles (input : Text) (start : Nat) (marks : List (Mark α)) (stop : Nat) : Prop where
  none : marks = [] → stop = start
  first : ∀ mark ∈ marks.head?, mark.start = start
  next : marks.IsChain fun left right => left.stop = right.start
  last : ∀ mark ∈ marks.getLast?, mark.stop = stop
  texts : ∃ texts, marks.mapM (·.text? input) = some texts ∧
    input.slice? start stop = some texts.flatten

namespace Tiles

theorem nil {start : Nat} (h : input.IsBoundary start) :
    Tiles input start ([] : List (Mark α)) start :=
  ⟨fun _ => rfl, by simp, .nil, by simp, [], rfl, Text.slice?_self h⟩

theorem cons {stop : Nat} {mark : Mark α} {marks : List (Mark α)} {text : Text}
    (htext : mark.text? input = some text) (h : Tiles input mark.stop marks stop) :
    Tiles input mark.start (mark :: marks) stop where
  none := by rintro ⟨⟩
  first := by simp
  next := by
    cases marks with
    | nil => exact .singleton mark
    | cons second marks => exact .cons_cons (h.first second rfl).symm h.next
  last := by
    cases marks with
    | nil => simpa using (h.none rfl).symm
    | cons second marks =>
      rw [List.getLast?_cons_cons]
      exact h.last
  texts := by
    obtain ⟨texts, htexts, hslice⟩ := h.texts
    refine ⟨text :: texts, ?_, Text.slice?_append htext hslice⟩
    rw [List.mapM_cons, htext, htexts]
    rfl

end Tiles

namespace Parser

/-- Built by operators that keep all marks in the order in which they were made, from parsers of
values without marks. A mark is only made by `mark`; constants have none. -/
inductive KeepsMarks [∀ rule, Marked (S.Result rule)] :
    {α : Type} → [Marked α] → Parser S α → Prop where
  /-- Literals, patterns, single characters and the remainder are lexemes. -/
  | lexeme {α : Type} [Marked α] {l : Lexeme α} (h : ∀ value : α, marks value = .none) :
    KeepsMarks (Parser.lexeme l)
  | builtIn (source : String) : KeepsMarks (Parser.builtIn source)
  | endOfInput : KeepsMarks Parser.endOfInput
  | currentOffset : KeepsMarks Parser.currentOffset
  | always {α : Type} [Marked α] {value : α} (h : marks value = .none) :
    KeepsMarks (Parser.always value)
  | never {α : Type} [Marked α] (expected : String) :
    KeepsMarks (Parser.never expected : Parser S α)
  | result {α β : Type} [Marked α] [Marked β] {p : Parser S α} (hp : KeepsMarks p) {value : β}
    (h : marks value = .none) : KeepsMarks (p.result value)
  | andThen {α β : Type} [Marked α] [Marked β] {p : Parser S α} {q : Parser S β}
    (hp : KeepsMarks p) (hq : KeepsMarks q) : KeepsMarks (p.andThen q)
  | skip {α β : Type} [Marked α] [Marked β] {p : Parser S α} {q : Parser S β}
    (hp : KeepsMarks p) (hq : KeepsMarks q) : KeepsMarks (p.skip q)
  /-- Both values may be put into any shape that has the marks of the one before those of the
  other. -/
  | zipWith {α β γ : Type} [Marked α] [Marked β] [Marked γ] {f : α → β → γ} {p : Parser S α}
    {q : Parser S β} (hp : KeepsMarks p) (hq : KeepsMarks q)
    (hf : ∀ a b, marks (f a b) = marks a ++ marks b) : KeepsMarks (Parser.zipWith f p q)
  | orElse {α : Type} [Marked α] {p q : Parser S α} (hp : KeepsMarks p) (hq : KeepsMarks q) :
    KeepsMarks (p.orElse q)
  | times {α : Type} [Marked α] {p : Parser S α} (hp : KeepsMarks p) (bounds : Bounds) :
    KeepsMarks (p.times bounds)
  | mark {α : Type} [Marked α] {p : Parser S α} (hp : KeepsMarks p) : KeepsMarks p.mark
  | lazy (slot : Nat) (rule : S.Rule) : KeepsMarks (Parser.lazy slot rule)
  | reshape {α β : Type} [Marked α] [Marked β] {f : α → β} {p : Parser S α} (hp : KeepsMarks p)
    (hf : ∀ a, marks (f a) = marks a) : KeepsMarks (p.map f)

end Parser

/-- The bodies of all rules keep their marks. -/
def Grammar.KeepsMarks [∀ rule, Marked (S.Result rule)] (grammar : Grammar S) : Prop :=
  ∀ rule, (grammar.body rule).KeepsMarks

namespace Parser

/-- A value without marks only has to be read forwards. -/
theorem relates_lexeme [Marked α] {grammar : Grammar S} {l : Lexeme α}
    (h : ∀ value : α, marks value = .none) :
    Action.Relates grammar input (fun start value stop => (marks value).Laid input start stop)
      (l.run input) := by
  refine Action.relates_lexeme ?_
  intro before rest value count hinput hread
  have hsplit : input = before ++ rest.take count ++ rest.drop count := by
    rw [List.append_assoc, List.take_append_drop, hinput]
  rw [h value, hsplit]
  exact Text.reaches_append before (rest.take count) (rest.drop count)

variable [∀ rule, Marked (S.Result rule)] [Marked α] [Marked β]

section Vocabulary

variable {p : Parser S α} {q : Parser S β}

theorem keepsMarks_literal (text : String) : (literal text : Parser S String).KeepsMarks :=
  .lexeme fun _ => rfl

theorem KeepsMarks.both (hp : p.KeepsMarks) (hq : q.KeepsMarks) : (p.both q).KeepsMarks :=
  .zipWith hp hq fun _ _ => rfl

theorem KeepsMarks.sequence {ps : List (Parser S α)} (h : ∀ p ∈ ps, p.KeepsMarks) :
    (sequence ps).KeepsMarks := by
  induction ps with
  | nil => exact .always rfl
  | cons p ps ih =>
    rw [List.forall_mem_cons] at h
    exact .zipWith h.1 (ih h.2) fun _ _ => rfl

theorem KeepsMarks.alt {ps : List (Parser S α)} (hp : p.KeepsMarks)
    (hps : ∀ q ∈ ps, q.KeepsMarks) : (alt p ps).KeepsMarks := by
  induction ps generalizing p with
  | nil => exact hp
  | cons q ps ih =>
    rw [List.forall_mem_cons] at hps
    exact ih (hp.orElse hps.1) hps.2

theorem KeepsMarks.sepBy1 (hp : p.KeepsMarks) (hq : q.KeepsMarks) : (p.sepBy1 q).KeepsMarks :=
  .reshape (hp.both ((hq.andThen hp).times _)) fun _ => rfl

theorem KeepsMarks.sepBy (hp : p.KeepsMarks) (hq : q.KeepsMarks) : (p.sepBy q).KeepsMarks :=
  (hp.sepBy1 hq).orElse (.always rfl)

end Vocabulary

variable {grammar : Grammar S}

theorem KeepsMarks.relates {call : (α : Type) → Parser S α → Action S α} {fuel : Nat}
    {p : Parser S α}
    (hcall : ∀ rule, Action.Relates grammar input (fun start value stop =>
      (marks value).Laid input start stop) (call _ (grammar.body rule)))
    (hp : p.KeepsMarks) :
    Action.Relates grammar input (fun start value stop => (marks value).Laid input start stop)
      (p.action grammar input call fuel) := by
  have hstop : ∀ {start stop : Nat} {marks : Marks}, marks.Laid input start stop →
      input.IsBoundary stop := fun hlaid => hlaid.reaches.isBoundary
  induction hp with
  | lexeme h => exact relates_lexeme h
  | builtIn source =>
    cases h : Pattern.compile source with
    | ok compiled =>
      rw [Parser.builtIn_eq_pattern h]
      exact relates_lexeme fun _ => rfl
    | error e =>
      rw [Parser.builtIn_eq_fault h]
      exact Action.relates_faulting _
  | endOfInput => exact Action.relates_endOfInput fun hstart => hstart.reaches_self
  | currentOffset =>
    refine Action.relates_currentOffset.mono ?_
    rintro start _ _ hstart ⟨rfl, rfl, -⟩
    exact hstart.reaches_self
  | always h =>
    refine Action.relates_yield fun hstart => ?_
    rw [h]
    exact hstart.reaches_self
  | never expected => exact Action.relates_failing expected
  | result hp h ih =>
    refine ih.map fun hlaid => ?_
    rw [h]
    exact hlaid.reaches
  | andThen hp hq ihp ihq =>
    refine ihp.bind (fun _ => ihq) hstop ?_
    exact fun hlaid hlaid' => hlaid'.after hlaid.reaches
  | skip hp hq ihp ihq =>
    refine ihp.zipWith ihq hstop ?_
    exact fun hlaid hlaid' => hlaid.before hlaid'.reaches
  | zipWith hp hq hf ihp ihq =>
    refine ihp.zipWith ihq hstop fun hlaid hlaid' => ?_
    rw [hf]
    exact hlaid.append hlaid'
  | orElse hp hq ihp ihq => exact ihp.orElse ihq
  | times hp bounds ih =>
    refine ih.times hstop (fun hstart => hstart.reaches_self) ?_ bounds fuel
    exact fun hlaid hlaid' => hlaid.append hlaid'
  | mark hp ih =>
    refine (ih.mark hstop).mono ?_
    rintro start mark stop hstart ⟨rfl, rfl, hlaid⟩
    exact ⟨hstart.reaches_self, hlaid, (hstop hlaid).reaches_self⟩
  | lazy slot rule => exact (hcall rule).lazy slot
  | reshape hp hf ih =>
    refine ih.map fun hlaid => ?_
    rw [hf]
    exact hlaid

theorem laid_runWithin (hg : grammar.KeepsMarks) (fuel : Nat) {p : Parser S α}
    (hp : p.KeepsMarks) :
    Action.Relates grammar input (fun start value stop => (marks value).Laid input start stop)
      (p.runWithin grammar input fuel) := by
  induction fuel generalizing α p with
  | zero => exact Action.relates_unfinished
  | succ fuel ih => exact hp.relates fun rule => ih (hg rule)

theorem tiles_runWithin (hg : grammar.KeepsMarks) (fuel : Nat) {p : Parser S α}
    (hp : p.KeepsMarks) :
    Action.Relates grammar input (Tiles input) (p.mark.many.runWithin grammar input fuel) := by
  cases fuel with
  | zero => exact Action.relates_unfinished
  | succ fuel =>
    have hvalue : Action.Relates grammar input (fun start _ stop => input.Reaches start stop)
        (p.action grammar input (fun _ q => runWithin grammar input fuel q) fuel) :=
      (hp.relates fun rule => laid_runWithin hg fuel (hg rule)).mono fun _ hlaid => hlaid.reaches
    have hmark : Action.Relates grammar input
        (fun start (mark : Mark α) stop => mark.start = start ∧ mark.stop = stop ∧
          ∃ text, mark.text? input = some text)
        (p.mark.action grammar input (fun _ q => runWithin grammar input fuel q) fuel) := by
      refine (hvalue.mark fun hreaches => hreaches.isBoundary).mono ?_
      rintro start mark stop hstart ⟨rfl, rfl, hreaches⟩
      exact ⟨rfl, rfl, Option.isSome_iff_exists.mp (Text.isSome_slice? hstart hreaches)⟩
    refine hmark.times ?_ Tiles.nil ?_ (.atLeast 0) fuel
    · rintro start mark stop ⟨rfl, rfl, text, htext⟩
      exact Text.isBoundary_of_slice? htext
    · rintro start mark middle marks stop ⟨rfl, rfl, text, htext⟩ htiles
      exact htiles.cons htext

/-- All marks in the value of a match lie between its ends, inside one another and one behind the
other as in the value; those of a repetition leave nothing between them. -/
theorem marks_isLaminar (hg : grammar.KeepsMarks) {p : Parser S α} (hp : p.KeepsMarks)
    {cells : Cells S} (hcells : cells.Faithful grammar) (input : Text) (fuel : Nat) :
    (∀ offset tracker run value next, input.IsBoundary offset →
      p.runWithin grammar input fuel offset ⟨tracker, cells⟩ = some run →
        run.outcome = .matched value next →
          Mark.IsLaminar input { start := offset, value := marks value, stop := next }) ∧
    ∀ offset tracker run marks next, input.IsBoundary offset →
      p.mark.many.runWithin grammar input fuel offset ⟨tracker, cells⟩ = some run →
        run.outcome = .matched marks next → Tiles input offset marks next := by
  constructor
  · intro offset tracker run value next hoffset hrun hmatched
    have hlaid := (laid_runWithin hg fuel hp hcells hoffset hrun).2 value next hmatched
    exact Mark.IsLaid.isLaminar ⟨hoffset, hlaid⟩
  · intro offset tracker run marks next hoffset hrun hmatched
    exact (tiles_runWithin hg fuel hp hcells hoffset hrun).2 marks next hmatched

end Parser

/-- Groups of groups, and letters that are read but not kept; the value is the marks of all. -/
abbrev Outline : Signature where
  Rule := Unit
  Result _ := Marks
  decEq := inferInstance

namespace Outline

instance (rule : Outline.Rule) : Marked (Outline.Result rule) :=
  inferInstanceAs (Marked Marks)

def group : Parser Outline Marks :=
  ((Parser.literal "(").andThen (.lazy 0 ())).skip (.literal ")")

def item : Parser Outline Marks :=
  .alt group [(Parser.literal "é").result Marks.none]

def grammar : Grammar Outline where
  body _ := (item.mark.sepBy (.literal ",")).map marks
  foreign _ := []

theorem keepsMarks_literal (text : String) :
    (Parser.literal text : Parser Outline String).KeepsMarks :=
  Parser.keepsMarks_literal text

theorem keepsMarks_item : item.KeepsMarks := by
  have hbody : (Parser.lazy 0 () : Parser Outline Marks).KeepsMarks :=
    Parser.KeepsMarks.lazy (S := Outline) 0 ()
  refine .alt (((keepsMarks_literal "(").andThen hbody).skip (keepsMarks_literal ")")) ?_
  intro p hp
  rw [List.mem_singleton.mp hp]
  exact (keepsMarks_literal "é").result rfl

theorem keepsMarks_grammar : grammar.KeepsMarks :=
  fun _ => .reshape (keepsMarks_item.mark.sepBy (keepsMarks_literal ",")) fun _ => rfl

/-- A letter and an empty group in a group, a comma between them, and a letter behind. The empty
group has tried to read an item, and the bracket that is never closed is given back. -/
theorem items_isLaminar :
    ∃ run, item.mark.many.runWithin Outline.grammar "x(é,())é(".toList 9 1 (.fresh .empty) =
        some run ∧
      run.outcome = .matched [⟨1, .mark 2 4 .none (.mark 5 7 .none .none), 8⟩, ⟨8, .none, 10⟩]
        10 ∧
      Mark.IsLaminar "x(é,())é(".toList
        ⟨1, .mark 1 8 (.mark 2 4 .none (.mark 5 7 .none .none)) (.mark 8 10 .none .none), 10⟩ ∧
      Tiles "x(é,())é(".toList 1
        [⟨1, Marks.mark 2 4 .none (.mark 5 7 .none .none), 8⟩, ⟨8, .none, 10⟩] 10 := by
  have houtcome : (item.mark.many.runWithin Outline.grammar "x(é,())é(".toList 9 1
      (.fresh .empty)).map (·.outcome) =
        some (.matched [⟨1, .mark 2 4 .none (.mark 5 7 .none .none), 8⟩, ⟨8, .none, 10⟩] 10) := by
    decide +kernel
  have hboundary : Text.IsBoundary "x(é,())é(".toList 1 :=
    ⟨['x'], "(é,())é(".toList, rfl, by decide⟩
  obtain ⟨run, hrun, hmatched⟩ := Option.map_eq_some_iff.mp houtcome
  obtain ⟨hlaminar, -⟩ := Parser.marks_isLaminar keepsMarks_grammar (keepsMarks_item.mark.times _)
    Cells.faithful_empty "x(é,())é(".toList 9
  obtain ⟨-, htiles⟩ := Parser.marks_isLaminar keepsMarks_grammar keepsMarks_item
    Cells.faithful_empty "x(é,())é(".toList 9
  exact ⟨run, hrun, hmatched, hlaminar 1 .empty run _ 10 hboundary hrun hmatched,
    htiles 1 .empty run _ 10 hboundary hrun hmatched⟩

end Outline

end Descent
