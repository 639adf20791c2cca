import Descent.Pattern
import Descent.Proofs.Closing.Token

/-!
# Anchored patterns

The group that is put around a source is closed by the parenthesis put behind it and by no other,
because the source can be read on its own. So an anchored source is the expression of the source in
a group behind the start of the text, and all its matches begin where the text does.
-/

namespace Descent

namespace Regex

namespace Outline

variable {outline pushed final : Outline} {groups : List Group} {token : Token}

/-- An outline with further groups around it. -/
def within (outline : Outline) (groups : List Group) : Outline :=
  { outline with outer := outline.outer ++ groups }

theorem push_within (h : outline.push token = .ok pushed) (groups : List Group) :
    (outline.within groups).push token = .ok (pushed.within groups) := by
  cases token with
  | one | bracket | assertion | blank | bar | directive | openPlain =>
    cases h
    rfl
  | repetition r =>
    simp only [push, within] at h ⊢
    cases hlast : outline.group.repeatLast r with
    | error e =>
      rw [hlast] at h
      cases h
    | ok group =>
      rw [hlast] at h
      cases h
      rfl
  | openCapture name =>
    cases name with
    | none =>
      cases h
      rfl
    | some name =>
      simp only [push] at h
      split at h
      · cases h
      · next hnew =>
        cases h
        exact if_neg hnew
  | closeGroup =>
    simp only [push] at h
    split at h
    · cases h
    · next parent outer houter =>
      cases h
      simp only [push, within, houter, List.cons_append]

/-- The group around everything. -/
def outermost (outline : Outline) : Group :=
  outline.outer.getLast?.getD outline.group

theorem outermost_openGroup (outline : Outline) (capture : Option Nat) (flags : Flags) :
    (outline.openGroup capture flags).outermost = outline.outermost := by
  simp [outermost, openGroup, List.getLast?_cons]

/-- Only the group that is being read changes, and it keeps its number. -/
theorem capture_outermost (houter : pushed.outer = outline.outer)
    (hgroup : pushed.group.capture = outline.group.capture) :
    pushed.outermost.capture = outline.outermost.capture := by
  unfold outermost
  rw [houter]
  cases outline.outer.getLast? with
  | none => exact hgroup
  | some last => rfl

theorem capture_outermost_push (h : outline.push token = .ok pushed) :
    pushed.outermost.capture = outline.outermost.capture := by
  cases token with
  | blank =>
    cases h
    rfl
  | one | bracket | assertion | bar | directive =>
    cases h
    exact capture_outermost rfl rfl
  | openPlain changes =>
    cases h
    rw [outermost_openGroup]
  | repetition r =>
    simp only [push, Group.repeatLast] at h
    split at h
    · cases h
      exact capture_outermost rfl rfl
    · cases h
  | openCapture name =>
    cases name with
    | none =>
      cases h
      exact congrArg _ (outermost_openGroup outline _ outline.flags)
    | some name =>
      simp only [push] at h
      split at h
      · cases h
      · cases h
        exact congrArg _ (outermost_openGroup outline _ outline.flags)
  | closeGroup =>
    simp only [push] at h
    split at h
    · cases h
    · next parent outer houter =>
      cases h
      simp only [outermost, houter, List.getLast?_cons, Option.getD_some]
      cases outer.getLast? <;> rfl

theorem read_cons {c : Char} {cs rest : List Char}
    (hnext : Token.next outline.flags c cs = .ok (token, rest))
    (hpush : outline.push token = .ok pushed) : outline.read (c :: cs) = pushed.read rest := by
  rw [read]
  split
  · next heq => cases heq.symm.trans hnext
  · next heq =>
    cases heq.symm.trans hnext
    rw [hpush]

theorem capture_outermost_read {cs : List Char} (h : outline.read cs = .ok final) :
    final.outermost.capture = outline.outermost.capture := by
  fun_induction Outline.read outline cs with
  | case1 outline =>
    cases h
    rfl
  | case2 | case3 => cases h
  | case4 outline c cs token rest hnext pushed hpush ih =>
    exact (ih h).trans (capture_outermost_push hpush)

/-- Within further groups a source is read up to its end, and the parenthesis is left. -/
theorem read_within {cs closed : List Char} (hcloses : Closes cs closed)
    (h : outline.read cs = .ok final) (groups : List Group) :
    ∃ rest, Closes [] rest ∧
      (outline.within groups).read closed = (final.within groups).read rest := by
  fun_induction Outline.read outline cs generalizing closed with
  | case1 outline =>
    cases h
    exact ⟨closed, hcloses, rfl⟩
  | case2 | case3 => cases h
  | case4 outline c cs token rest hnext pushed hpush ih =>
    cases hcloses with
    | cons _ hcloses =>
    obtain ⟨rest', hnext', hrest⟩ := hcloses.next c _ _ hnext
    obtain ⟨left, hleft, hread⟩ := ih hrest h
    refine ⟨left, hleft, ?_⟩
    rw [← hread]
    exact read_cons hnext' (push_within hpush groups)

/-- The beginning of an anchored source, before its group is opened. -/
def tied : Group :=
  (Group.start none .initial).add (some (.leaf (.assertion .textStart)))

theorem read_start_anchored (source : List Char) :
    start.read ('^' :: '(' :: '?' :: ':' :: (source ++ [')'])) =
      (start.within [tied]).read (source ++ [')']) := by
  have hcaret : Token.next start.flags '^' ('(' :: '?' :: ':' :: (source ++ [')'])) =
      .ok (.assertion .textStart, '(' :: '?' :: ':' :: (source ++ [')'])) := rfl
  have hopen : Token.next .initial '(' ('?' :: ':' :: (source ++ [')'])) =
      .ok (.openPlain [], source ++ [')']) := by
    have hflags : Token.readFlags true [] (':' :: (source ++ [')'])) =
        .ok ([], ':', source ++ [')']) := by
      rw [Token.readFlags.eq_def]
      rfl
    simp [Token.next, Token.readGroup, skipBlanks, Flags.initial, hflags]
  rw [read_cons hcaret rfl]
  exact read_cons hopen rfl

theorem read_parenthesis {parent : Group} (houter : outline.outer = []) :
    (outline.within [parent]).read [')'] =
      .ok { outline with
        flags := outline.group.flagsAfter
        group := parent.add (some outline.group.close) } := by
  have hpush : (outline.within [parent]).push .closeGroup =
      .ok { outline with
        flags := outline.group.flagsAfter
        group := parent.add (some outline.group.close) } := by
    simp only [push, within, houter, List.nil_append]
  rw [read_cons rfl hpush, read]

theorem finish_eq_ok {e : Expr} (h : outline.finish = .ok e) :
    outline.outer = [] ∧ e = outline.group.body.expr := by
  unfold finish at h
  split at h
  · next hclosed =>
    simp only at h
    split at h
    · cases h
      exact ⟨List.isEmpty_iff.mp hclosed, rfl⟩
    · cases h
  · cases h

end Outline

namespace Expr

theorem ofSource_eq_ok_iff {source : List Char} {e : Expr} :
    ofSource source = .ok e ↔
      ∃ final, Outline.start.read source = .ok final ∧ final.finish = .ok e := by
  constructor
  · intro h
    unfold ofSource at h
    cases hread : Outline.start.read source with
    | error e =>
      rw [hread] at h
      cases h
    | ok final =>
      rw [hread] at h
      exact ⟨final, rfl, h⟩
  · rintro ⟨final, hread, hfinish⟩
    unfold ofSource
    rw [hread]
    exact hfinish

/-- An expression in a group behind the start of the text. -/
def tied (e : Expr) : Expr :=
  .concat (.assertion .textStart) (.group e)

/-- An anchored source means what the source means on its own, behind the start of the text. -/
theorem ofSource_anchored {source : List Char} {alone anchored : Expr}
    (halone : ofSource source = .ok alone)
    (hanchored : ofSource ('^' :: '(' :: '?' :: ':' :: (source ++ [')'])) = .ok anchored) :
    anchored = alone.tied := by
  obtain ⟨final, hread, hfinish⟩ := ofSource_eq_ok_iff.mp halone
  obtain ⟨last, hlast, hfinish'⟩ := ofSource_eq_ok_iff.mp hanchored
  obtain ⟨rest, hrest, hwithin⟩ :=
    Outline.read_within (.append_parenthesis source) hread [Outline.tied]
  rw [Outline.read_start_anchored, hwithin] at hlast
  have hcapture := Outline.capture_outermost_read hread
  obtain ⟨houter, rfl⟩ := Outline.finish_eq_ok hfinish
  obtain ⟨hclosed, rfl⟩ := Outline.finish_eq_ok hfinish'
  cases hrest with
  | swallowed =>
    -- The group was never closed.
    rw [Outline.read] at hlast
    cases hlast
    simp [Outline.within] at hclosed
  | closed =>
    have hplain : final.group.capture = none := by
      rw [Outline.outermost, houter] at hcapture
      exact hcapture
    rw [Outline.read_parenthesis houter] at hlast
    cases hlast
    simp [tied, ofItems, Group.close, Piece.group, hplain, Group.body, Outline.tied, Group.add,
      Group.start, Group.alternative, Piece.leaf]

end Expr

namespace Tree

theorem joinLiterals_assertion (a : Assertion) (ts : List Tree) :
    joinLiterals (.assertion a :: ts) = .assertion a :: joinLiterals ts := by
  rw [joinLiterals]
  intro _ _ _ h
  cases h

theorem isTied_concatAll (t : Tree) :
    (concatAll [.assertion .textStart, t]).isTied .forward = true := by
  have hjoined : joinLiterals ([.assertion .textStart, t].flatMap parts) =
      .assertion .textStart :: joinLiterals t.parts := by
    simp [parts, joinLiterals_assertion]
  unfold concatAll
  rw [hjoined]
  cases joinLiterals t.parts with
  | nil => rfl
  | cons t ts => rfl

theorem ofExpr_tied (e : Expr) :
    ofExpr e.tied = .concatAll [.assertion .textStart, ofExpr e] :=
  rfl

theorem ofSource_eq_ok_iff {source : List Char} {tree : Tree} :
    ofSource source = .ok tree ↔ ∃ e, Expr.ofSource source = .ok e ∧ ofExpr e = tree := by
  unfold ofSource
  cases Expr.ofSource source <;> simp [Except.map]

end Tree

/-- An expression that is tied to the start of the text matches there or not at all. -/
theorem start_of_find? {regex : Regex} (htied : regex.tree.isTied .forward = true) {text : Text}
    {found : Match} (h : regex.find? text = some found) : found.whole.start = 0 := by
  unfold find? at h
  rw [if_pos htied] at h
  obtain ⟨finish, -, rfl⟩ := Option.map_eq_some_iff.mp h
  rfl

theorem tree_of_compile {source : String} {regex : Regex} (h : compile source = .ok regex) :
    Tree.ofSource source.toList = .ok regex.tree := by
  unfold compile at h
  cases htree : Tree.ofSource source.toList with
  | error e =>
    rw [htree] at h
    cases h
  | ok tree =>
    rw [htree] at h
    by_cases hfits : Weight.fits tree = true
    · cases (if_pos hfits).symm.trans h
      rfl
    · cases (if_neg hfits).symm.trans h

end Regex

namespace Pattern

open Regex

theorem toList_anchored (source : String) :
    (anchored source).toList = '^' :: '(' :: '?' :: ':' :: (source.toList ++ [')']) := by
  simp [anchored]

/-- A pattern is compiled from an expression that stands on its own. -/
theorem exists_compiled {engine : Engine} {source : String} {pattern : Pattern}
    (h : compileBy engine source = .ok pattern) :
    ∃ alone compiled, engine.compile source = .ok alone ∧
      engine.compile (anchored source) = .ok compiled ∧
      pattern = .ofCompiled engine source compiled := by
  unfold compileBy at h
  cases halone : engine.compile source with
  | error e =>
    rw [halone] at h
    cases h
  | ok alone =>
    cases hanchored : engine.compile (anchored source) with
    | error e =>
      rw [halone, hanchored] at h
      cases h
    | ok compiled =>
      rw [halone, hanchored] at h
      cases h
      exact ⟨alone, compiled, rfl, rfl, rfl⟩

theorem isTied_of_compile {source : String} {alone compiled : Regex}
    (halone : Regex.compile source = .ok alone)
    (hcompiled : Regex.compile (anchored source) = .ok compiled) :
    compiled.tree.isTied .forward = true := by
  obtain ⟨e, he, -⟩ := Tree.ofSource_eq_ok_iff.mp (tree_of_compile halone)
  obtain ⟨e', he', htree⟩ := Tree.ofSource_eq_ok_iff.mp (tree_of_compile hcompiled)
  rw [toList_anchored] at he'
  rw [← htree, Expr.ofSource_anchored he he', Tree.ofExpr_tied]
  exact Tree.isTied_concatAll (Tree.ofExpr e)

/-- What a pattern reads is the beginning of the text. -/
theorem value_of_read?_zero {source : String} {pattern : Pattern}
    (h : compile source = .ok pattern) {text : Text} {value : String} {count : Nat}
    (hread : pattern.read? 0 text = some (value, count)) :
    value = String.ofList (text.take count) := by
  obtain ⟨alone, compiled, halone, hcompiled, rfl⟩ := exists_compiled h
  unfold read? at hread
  cases hfind : compiled.find? text with
  | none => simp [readWhole?, ofCompiled, Engine.programs, hfind] at hread
  | some found =>
    have hstart := start_of_find? (isTied_of_compile halone hcompiled) hfind
    simp only [readWhole?, ofCompiled, Engine.programs, hfind, if_true, Option.map_some,
      Option.bind_eq_bind, Option.bind_some, Span.text, hstart, List.drop_zero,
      Nat.sub_zero] at hread
    cases hread
    rfl

end Pattern

end Descent
