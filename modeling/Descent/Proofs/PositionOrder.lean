import Descent.Proofs.LineIndex
import Mathlib.Order.Hom.Basic

/-!
# Positions and boundaries

A text has a position for each place at which it can be cut, and every pair of a row that it has and
a column that this row has is one of them. The places and the positions stand in the same order.
-/

namespace Descent

namespace Position

/-- The position that is reached from one position by a text that, on its own, ends at another. A
column counts on only as long as no line break has come. -/
def followedBy (p q : Position) : Position where
  row := p.row + q.row
  col := if q.row = 0 then p.col + q.col else q.col

theorem ending_append (a b : Text) : ending (a ++ b) = (ending a).followedBy (ending b) := by
  induction b using List.reverseRecOn with
  | nil => simp [ending, lastLine, followedBy]
  | append_singleton b c ih =>
    rw [← List.append_assoc, ending_concat, ending_concat, ih]
    by_cases hc : c = '\n'
    · simp [hc, followedBy, Nat.add_assoc]
    · simp only [hc, followedBy, if_false]
      split <;> simp [Nat.add_assoc]

/-- Some text more is further on. -/
theorem ending_lt_append {a m : Text} (h : m ≠ []) : ending a < ending (a ++ m) := by
  obtain ⟨c, m, rfl⟩ := List.exists_cons_of_ne_nil h
  have hfirst : ending a < ending (a ++ [c]) := by
    rw [ending_concat, lt_iff]
    split <;> dsimp only <;> omega
  have hrest : ending (a ++ [c]) ≤ ending (a ++ [c] ++ m) := ending_le_append (a ++ [c]) m
  rw [List.append_assoc, List.singleton_append] at hrest
  rw [lt_iff] at hfirst ⊢
  rw [le_iff] at hrest
  omega

/-- Whether a text has the row of a position, and this row has the column. Behind the characters of
a row there is one column more, that of its end. -/
def LiesIn (input : Text) (p : Position) : Prop :=
  p.row < (LineIndex.ofText input).lineCount ∧
    ∃ line, (input.splitOn '\n')[p.row]? = some line ∧ p.col ≤ line.length

theorem lineCount_ofText (input : Text) :
    (LineIndex.ofText input).lineCount = input.count '\n' + 1 := by
  simp [LineIndex.lineCount, LineIndex.ofText, LineIndex.length_startsAfter]

theorem splitOn_cons (c : Char) (t : Text) :
    (c :: t).splitOn '\n' =
      if c = '\n' then [] :: t.splitOn '\n' else (t.splitOn '\n').modifyHead (c :: ·) := by
  simp [List.splitOn, List.splitOnP_cons_eq_if_modifyHead]

theorem length_splitOn (t : Text) : (t.splitOn '\n').length = t.count '\n' + 1 := by
  induction t with
  | nil => simp
  | cons c t ih =>
    rw [splitOn_cons, List.count_cons]
    by_cases hc : c = '\n' <;> simp [hc, ih]

theorem liesIn_iff_splitOn {input : Text} {p : Position} :
    p.LiesIn input ↔ ∃ line, (input.splitOn '\n')[p.row]? = some line ∧ p.col ≤ line.length := by
  refine and_iff_right_of_imp ?_
  rintro ⟨line, hline, -⟩
  rw [lineCount_ofText, ← length_splitOn]
  exact (List.getElem?_eq_some_iff.mp hline).1

theorem liesIn_nil {p : Position} : p.LiesIn [] ↔ p = ⟨0, 0⟩ := by
  obtain ⟨row, col⟩ := p
  rw [liesIn_iff_splitOn]
  cases row <;> simp

theorem ending_newline_followedBy (q : Position) :
    (ending ['\n']).followedBy q = ⟨q.row + 1, q.col⟩ := by
  simp [ending, lastLine, followedBy, Nat.add_comm]

theorem ending_other_followedBy {c : Char} (hc : c ≠ '\n') (q : Position) :
    (ending [c]).followedBy q = ⟨q.row, if q.row = 0 then q.col + 1 else q.col⟩ := by
  simp [ending, lastLine, followedBy, hc, Nat.add_comm]

theorem liesIn_cons {c : Char} {t : Text} {p : Position} :
    p.LiesIn (c :: t) ↔ p = ⟨0, 0⟩ ∨ ∃ q, q.LiesIn t ∧ p = (ending [c]).followedBy q := by
  obtain ⟨row, col⟩ := p
  by_cases hc : c = '\n'
  · subst hc
    simp only [liesIn_iff_splitOn, splitOn_cons, ending_newline_followedBy, if_true]
    cases row with
    | zero => simp
    | succ row =>
      constructor
      · rintro ⟨line, hline, hcol⟩
        exact .inr ⟨⟨row, col⟩, ⟨line, hline, hcol⟩, rfl⟩
      · rintro (h | ⟨q, ⟨line, hline, hcol⟩, h⟩)
        · cases h
        · cases h
          exact ⟨line, hline, hcol⟩
  · obtain ⟨first, others, hlines⟩ := List.exists_cons_of_ne_nil (List.splitOn_ne_nil '\n' t)
    simp only [liesIn_iff_splitOn, splitOn_cons, ending_other_followedBy hc, hlines, hc, if_false,
      List.modifyHead_cons]
    constructor
    · rintro ⟨line, hline, hcol⟩
      cases row with
      | zero =>
        cases hline
        cases col with
        | zero => exact .inl rfl
        | succ col => exact .inr ⟨⟨0, col⟩, ⟨first, rfl, Nat.le_of_succ_le_succ hcol⟩, rfl⟩
      | succ row => exact .inr ⟨⟨row + 1, col⟩, ⟨line, hline, hcol⟩, rfl⟩
    · rintro (h | ⟨⟨row, col⟩, ⟨line, hline, hcol⟩, h⟩)
      · cases h
        exact ⟨c :: first, rfl, Nat.zero_le _⟩
      · cases h
        cases row with
        | zero =>
          cases hline
          exact ⟨c :: first, rfl, Nat.succ_le_succ hcol⟩
        | succ row => exact ⟨line, hline, hcol⟩

/-- The positions in a text are those at which its beginnings end. -/
theorem liesIn_iff {input : Text} {p : Position} :
    p.LiesIn input ↔ ∃ a b, input = a ++ b ∧ p = ending a := by
  induction input generalizing p with
  | nil =>
    rw [liesIn_nil]
    constructor
    · rintro rfl
      exact ⟨[], [], rfl, rfl⟩
    · rintro ⟨a, b, hsplit, rfl⟩
      rw [(List.append_eq_nil_iff.mp hsplit.symm).1]
      rfl
  | cons c t ih =>
    rw [liesIn_cons]
    constructor
    · rintro (rfl | ⟨q, hq, rfl⟩)
      · exact ⟨[], c :: t, rfl, rfl⟩
      · obtain ⟨a, b, rfl, rfl⟩ := ih.mp hq
        exact ⟨c :: a, b, rfl, (ending_append [c] a).symm⟩
    · rintro ⟨a, b, hsplit, rfl⟩
      cases a with
      | nil => exact .inl rfl
      | cons d a =>
        cases hsplit
        exact .inr ⟨ending a, ih.mpr ⟨a, b, rfl, rfl⟩, ending_append [c] a⟩

theorem resolve?_of_consumed {input consumed rest : Text} {offset : Nat}
    (hsplit : input = consumed ++ rest) (hsize : consumed.size = min offset input.size) :
    resolve? input offset = some (ending consumed) := by
  have hbefore : input.before? consumed.size = some consumed :=
    Text.before?_eq_some_iff.mpr ⟨⟨rest, hsplit.symm⟩, rfl⟩
  rw [resolve?, ← hsize, hbefore, Option.map_some]

theorem resolve?_append (a b : Text) : resolve? (a ++ b) a.size = some (ending a) :=
  resolve?_of_consumed rfl (Text.size_eq_min_size_append a b)

theorem resolve?_beyond (input : Text) (more : Nat) :
    resolve? input (input.size + more) = some (ending input) :=
  resolve?_of_consumed (List.append_nil input).symm (Nat.min_eq_right (Nat.le_add_right _ _)).symm

theorem le_of_lt {p q : Position} (h : p < q) : p ≤ q := by
  rw [lt_iff] at h
  rw [le_iff]
  omega

theorem not_le_of_lt {p q : Position} (h : p < q) : ¬ q ≤ p := by
  rw [lt_iff] at h
  rw [le_iff]
  omega

/-- The position of a boundary. -/
def ofBoundary (input : Text) (place : {offset // input.IsBoundary offset}) : Position :=
  ending ((input.before? place.1).getD [])

section Boundaries

variable {input : Text}

theorem ofBoundary_eq_ending {a b : Text} (hsplit : input = a ++ b)
    (h : input.IsBoundary a.size) : ofBoundary input ⟨a.size, h⟩ = ending a := by
  have hbefore : input.before? a.size = some a :=
    Text.before?_eq_some_iff.mpr ⟨⟨b, hsplit.symm⟩, rfl⟩
  rw [ofBoundary, hbefore, Option.getD_some]

theorem resolve?_boundary (place : {offset // input.IsBoundary offset}) :
    resolve? input place.1 = some (ofBoundary input place) := by
  obtain ⟨offset, h⟩ := place
  obtain ⟨a, b, rfl, rfl⟩ := id h
  rw [ofBoundary_eq_ending rfl, resolve?_append]

theorem ofBoundary_liesIn (place : {offset // input.IsBoundary offset}) :
    (ofBoundary input place).LiesIn input := by
  obtain ⟨offset, h⟩ := place
  obtain ⟨a, b, rfl, rfl⟩ := id h
  exact liesIn_iff.mpr ⟨a, b, rfl, ofBoundary_eq_ending rfl h⟩

theorem exists_ofBoundary {p : Position} (h : p.LiesIn input) :
    ∃ place, ofBoundary input place = p := by
  obtain ⟨a, b, rfl, rfl⟩ := liesIn_iff.mp h
  exact ⟨⟨a.size, a, b, rfl, rfl⟩, ofBoundary_eq_ending rfl _⟩

theorem ofBoundary_strictMono {first second : {offset // input.IsBoundary offset}}
    (h : first < second) : ofBoundary input first < ofBoundary input second := by
  obtain ⟨m, hm⟩ := first
  obtain ⟨n, hn⟩ := second
  obtain ⟨a, b, hfirst, rfl⟩ := id hm
  obtain ⟨a', b', hsecond, rfl⟩ := id hn
  have hlt : a.size < a'.size := h
  rw [ofBoundary_eq_ending hfirst, ofBoundary_eq_ending hsecond]
  -- The earlier boundary ends a proper beginning of what the later one ends.
  rcases List.append_eq_append_iff.mp (hfirst.symm.trans hsecond) with
    ⟨m, rfl, -⟩ | ⟨m, rfl, -⟩
  · apply ending_lt_append
    rintro rfl
    simp at hlt
  · rw [Text.size_append] at hlt
    omega

theorem ofBoundary_le_iff {first second : {offset // input.IsBoundary offset}} :
    ofBoundary input first ≤ ofBoundary input second ↔ first ≤ second := by
  rcases lt_trichotomy first second with h | rfl | h
  · exact iff_of_true (le_of_lt (ofBoundary_strictMono h)) h.le
  · exact iff_of_true (.inr ⟨rfl, Nat.le_refl _⟩) le_rfl
  · exact iff_of_false (not_le_of_lt (ofBoundary_strictMono h)) h.not_ge

theorem ofBoundary_injective : Function.Injective (ofBoundary input) := by
  intro first second h
  have hle : ∀ p : Position, p ≤ p := fun p => .inr ⟨rfl, Nat.le_refl p.col⟩
  apply le_antisymm
  · rw [← ofBoundary_le_iff, h]
    exact hle _
  · rw [← ofBoundary_le_iff, h]
    exact hle _

end Boundaries

/-- Each boundary with its position. -/
noncomputable def boundaries (input : Text) :
    {offset // input.IsBoundary offset} ≃o {p : Position // p.LiesIn input} where
  toEquiv := .ofBijective (fun place => ⟨ofBoundary input place, ofBoundary_liesIn place⟩)
    ⟨fun _ _ h => ofBoundary_injective (congrArg Subtype.val h),
      fun p => (exists_ofBoundary p.2).imp fun _ h => Subtype.ext h⟩
  map_rel_iff' := ofBoundary_le_iff

/-- Resolving takes the boundaries of a text, in their order, to the pairs of a row and a column in
that row, each of which it meets once. Whatever lies past the end has the position of the end, which
is the last one, and each line break begins one row more. -/
theorem resolve?_orderIso (input : Text) :
    ∃ place : {offset // input.IsBoundary offset} ≃o {p : Position // p.LiesIn input},
      (∀ offset, resolve? input offset.1 = some (place offset).1) ∧
      (∀ first second, first < second ↔ (place first).1 < (place second).1) ∧
      (∀ more, resolve? input (input.size + more) =
        some (place ⟨input.size, input.isBoundary_size⟩).1) ∧
      (∀ p : {p : Position // p.LiesIn input},
        p.1 ≤ (place ⟨input.size, input.isBoundary_size⟩).1) ∧
      (LineIndex.ofText input).lineCount = input.count '\n' + 1 := by
  refine ⟨boundaries input, resolve?_boundary, ?_, ?_, ?_, lineCount_ofText input⟩
  · intro first second
    constructor
    · exact ofBoundary_strictMono
    · intro hlt
      rw [← not_le, ← ofBoundary_le_iff]
      exact not_le_of_lt hlt
  · intro more
    have hend := resolve?_boundary ⟨input.size, input.isBoundary_size⟩
    rw [resolve?_beyond, ← resolve?_beyond input 0]
    exact hend
  · intro p
    obtain ⟨offset, rfl⟩ := (boundaries input).surjective p
    exact ofBoundary_le_iff.mpr offset.2.le_size

end Position

end Descent
