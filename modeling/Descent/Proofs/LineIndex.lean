import Descent.Position.LineIndex
import Mathlib.Data.List.Induction

/-!
# The line index agrees with the scan

The table of line starts holds zero and the offset after each line feed. An offset that lies in a
character, or at its beginning, cuts the table where the text before that character does; so
bisection finds the line, and what is left of the line is the last line of the scan.
-/

namespace Descent

namespace Text

/-- Every offset within the text lies at the end of it or in one of its characters. -/
theorem exists_floor (t : Text) {n : Nat} (h : n ≤ t.size) :
    ∃ a b, t = a ++ b ∧ a.size ≤ n ∧ ∀ c ∈ b.head?, n < a.size + c.utf8Size := by
  induction t generalizing n with
  | nil => exact ⟨[], [], rfl, Nat.zero_le n, by simp⟩
  | cons c t ih =>
    rw [size_cons] at h
    by_cases hc : n < c.utf8Size
    · exact ⟨[], c :: t, rfl, Nat.zero_le n, by simpa using hc⟩
    · obtain ⟨a, b, rfl, hle, hlt⟩ := @ih (n - c.utf8Size) (by omega)
      refine ⟨c :: a, b, rfl, ?_, ?_⟩
      · rw [size_cons]
        omega
      · intro d hd
        have := hlt d hd
        rw [size_cons]
        omega

theorem size_eq_min_size_append (a b : Text) : a.size = min a.size (Text.size (a ++ b)) := by
  rw [size_append]
  omega

/-- Inside a character there is no boundary. -/
theorem IsBoundary.eq_floor {a b : Text} {n : Nat} (h : (a ++ b).IsBoundary n)
    (hle : a.size ≤ n) (hlt : ∀ c ∈ b.head?, n < a.size + c.utf8Size) : n = a.size := by
  obtain ⟨a', b', hsplit, rfl⟩ := h
  rcases List.append_eq_append_iff.mp hsplit with ⟨m, rfl, rfl⟩ | ⟨m, rfl, rfl⟩
  · cases m with
    | nil => rw [List.append_nil]
    | cons c m =>
      have := hlt c rfl
      simp only [size_append, size_cons] at this
      omega
  · rw [size_append] at hle ⊢
    omega

theorem before?_floor {a b : Text} {n : Nat} (hle : a.size ≤ n)
    (hlt : ∀ c ∈ b.head?, n < a.size + c.utf8Size) :
    (a ++ b).before? n = if n = a.size then some a else none := by
  split
  · next hn => exact before?_eq_some_iff.mpr ⟨List.prefix_append a b, hn.symm⟩
  · next hn =>
    apply Option.eq_none_iff_forall_ne_some.mpr
    intro x hx
    obtain ⟨⟨y, hxy⟩, hsize⟩ := before?_eq_some_iff.mp hx
    exact hn (IsBoundary.eq_floor ⟨x, y, hxy.symm, hsize⟩ hle hlt)

theorem slice?_floor {a m b : Text} {n : Nat} (hle : (a ++ m).size ≤ n)
    (hlt : ∀ c ∈ b.head?, n < (a ++ m).size + c.utf8Size) :
    (a ++ m ++ b).slice? a.size n = if n = (a ++ m).size then some m else none := by
  split
  · next hn => exact slice?_eq_some_iff.mpr ⟨a, b, rfl, rfl, hn.symm⟩
  · next hn =>
    apply Option.eq_none_iff_forall_ne_some.mpr
    intro x hx
    obtain ⟨a', b', hsplit, -, hsize⟩ := slice?_eq_some_iff.mp hx
    exact hn (IsBoundary.eq_floor ⟨a' ++ x, b', hsplit, hsize⟩ hle hlt)

end Text

namespace Position

theorem lastLine_concat (t : Text) (c : Char) :
    lastLine (t ++ [c]) = if c = '\n' then [] else lastLine t ++ [c] := by
  by_cases h : c = '\n' <;> simp [lastLine, h]

theorem ending_concat (t : Text) (c : Char) :
    ending (t ++ [c]) =
      if c = '\n' then ⟨(ending t).row + 1, 0⟩ else ⟨(ending t).row, (ending t).col + 1⟩ := by
  by_cases h : c = '\n' <;> simp [ending, lastLine_concat, h]

theorem ending_le_append (a m : Text) : ending a ≤ ending (a ++ m) := by
  induction m using List.reverseRecOn with
  | nil =>
    rw [List.append_nil]
    exact .inr ⟨rfl, Nat.le_refl _⟩
  | append_singleton m c ih =>
    rw [← List.append_assoc, ending_concat]
    rw [le_iff] at ih ⊢
    split <;> dsimp only <;> omega

theorem resolve?_eq_none_iff {input : Text} {offset : Nat} :
    resolve? input offset = none ↔ offset < input.size ∧ ¬ input.IsBoundary offset := by
  rw [resolve?, Option.map_eq_none_iff, Text.before?, Option.map_eq_none_iff,
    ← Option.not_isSome_iff_eq_none, ← Text.isBoundary_iff]
  rcases Nat.lt_or_ge offset input.size with hlt | hge
  · rw [Nat.min_eq_left (Nat.le_of_lt hlt)]
    simp [hlt]
  · rw [Nat.min_eq_right hge]
    simp [Text.isBoundary_size, Nat.not_lt.mpr hge]

end Position

namespace LineIndex

section Table

variable {base : Nat} {t : Text}

theorem startsAfter_append (base : Nat) (a b : Text) :
    startsAfter base (a ++ b) = startsAfter base a ++ startsAfter (base + a.size) b := by
  induction a generalizing base with
  | nil => simp [startsAfter]
  | cons c a ih => by_cases h : c = '\n' <;> simp [startsAfter, h, ih, Nat.add_assoc]

theorem length_startsAfter (base : Nat) (t : Text) :
    (startsAfter base t).length = t.count '\n' := by
  induction t generalizing base with
  | nil => rfl
  | cons c t ih => by_cases h : c = '\n' <;> simp [startsAfter, h, ih]

/-- The table has the offset after each line feed, and no other. -/
theorem mem_startsAfter_iff {start : Nat} :
    start ∈ startsAfter base t ↔ ∃ a b : Text, t = a ++ '\n' :: b ∧ start = base + a.size + 1 := by
  have hfeed : ('\n' : Char).utf8Size = 1 := rfl
  constructor
  · intro hmem
    induction t generalizing base with
    | nil => cases hmem
    | cons c t ih =>
      have hlater : start ∈ startsAfter (base + c.utf8Size) t →
          ∃ a b : Text, c :: t = a ++ '\n' :: b ∧ start = base + a.size + 1 := by
        intro hmem
        obtain ⟨a, b, rfl, hstart⟩ := ih hmem
        exact ⟨c :: a, b, rfl, by rw [Text.size_cons]; omega⟩
      by_cases h : c = '\n'
      · subst h
        rcases List.mem_cons.mp (by simpa [startsAfter] using hmem) with rfl | hmem
        · exact ⟨[], t, rfl, rfl⟩
        · exact hlater hmem
      · exact hlater (by simpa [startsAfter, h] using hmem)
  · rintro ⟨a, b, rfl, rfl⟩
    rw [startsAfter_append]
    simp [startsAfter, hfeed]

theorem le_size_of_mem_startsAfter {start : Nat} (h : start ∈ startsAfter base t) :
    start ≤ base + t.size := by
  obtain ⟨a, b, rfl, rfl⟩ := mem_startsAfter_iff.mp h
  have hfeed : ('\n' : Char).utf8Size = 1 := rfl
  simp only [Text.size_append, Text.size_cons, hfeed]
  omega

/-- No line starts within the first character of what the table is made from. -/
theorem lt_of_mem_startsAfter {start n : Nat} (h : start ∈ startsAfter base t)
    (hn : ∀ c ∈ t.head?, n < base + c.utf8Size) : n < start := by
  obtain ⟨a, b, rfl, rfl⟩ := mem_startsAfter_iff.mp h
  cases a with
  | nil => exact hn '\n' rfl
  | cons c a =>
    have := hn c rfl
    rw [Text.size_cons]
    omega

end Table

section Bisection

variable {starts : Array Nat} {offset : Nat}

/-- Bisection finds the cut between the entries up to the offset and those above it. -/
theorem bisect_eq {low high cut : Nat}
    (hcut : ∀ i, (starts[i]?).any (· ≤ offset) = true ↔ i < cut) (hlow : low ≤ cut)
    (hhigh : cut ≤ high) : bisect starts offset low high = cut := by
  fun_induction bisect starts offset low high with
  | case1 low high hlt middle hbelow ih =>
    have := (hcut middle).mp hbelow
    exact ih (by omega) hhigh
  | case2 low high hlt middle habove ih =>
    have : ¬ middle < cut := fun h => habove ((hcut middle).mpr h)
    exact ih hlow (by omega)
  | case3 low high hge => omega

theorem bisect_eq_length {front back : List Nat} (hsplit : starts.toList = front ++ back)
    (hfront : ∀ start ∈ front, start ≤ offset) (hback : ∀ start ∈ back, offset < start) :
    bisect starts offset 0 starts.size = front.length := by
  have hsize : starts.size = front.length + back.length := by
    rw [← Array.length_toList, hsplit, List.length_append]
  refine bisect_eq ?_ (Nat.zero_le _) (by omega)
  intro i
  rw [← Array.getElem?_toList, hsplit]
  rcases Nat.lt_or_ge i front.length with hi | hi
  · rw [List.getElem?_append_left hi, List.getElem?_eq_getElem hi]
    simpa [hi] using hfront _ (List.getElem_mem hi)
  · rw [List.getElem?_append_right hi]
    cases hentry : back[i - front.length]? with
    | none => simp [Nat.not_lt.mpr hi]
    | some start =>
      have := hback start (List.mem_of_getElem? hentry)
      simp [Nat.not_lt.mpr hi, this]

end Bisection

/-- The last entry of the table of a text is where its last line starts. -/
theorem exists_lastLine (t : Text) :
    ∃ before : Text, t = before ++ Position.lastLine t ∧
      (0 :: startsAfter 0 t).getLast? = some before.size := by
  induction t using List.reverseRecOn with
  | nil => exact ⟨[], rfl, rfl⟩
  | append_singleton t c ih =>
    rw [Position.lastLine_concat, startsAfter_append, ← List.cons_append]
    by_cases h : c = '\n'
    · subst h
      have hnext : startsAfter (0 + Text.size t) ['\n'] = [Text.size (t ++ ['\n'])] := by
        simp [startsAfter]
      refine ⟨t ++ ['\n'], by simp, ?_⟩
      rw [hnext, List.getLast?_concat]
    · obtain ⟨before, hsplit, hlast⟩ := ih
      refine ⟨before, ?_, ?_⟩
      · rw [if_neg h, ← List.append_assoc, ← hsplit]
      · simpa [startsAfter, h] using hlast

section Resolve

theorem resolve?_of_bisect {index : LineIndex} {offset row start : Nat}
    (hbisect : bisect index.starts (min offset index.input.size) 0 index.starts.size = row + 1)
    (hstart : index.starts[row]? = some start) :
    index.resolve? offset =
      (index.input.slice? start (min offset index.input.size)).map fun line =>
        { row, col := line.length } := by
  unfold resolve?
  simp only [hbisect, hstart]
  exact Option.map_eq_bind.symm

variable {a b : Text} {n : Nat}

theorem toList_starts_ofText (a b : Text) :
    (ofText (a ++ b)).starts.toList =
      (0 :: startsAfter 0 a) ++ startsAfter (0 + a.size) b := by
  simp [ofText, startsAfter_append]

/-- Up to an offset that lies at the end of `a` or in the character after it, the lines that start
are those that start in `a`. -/
theorem bisect_ofText (hle : a.size ≤ n) (hlt : ∀ c ∈ b.head?, n < a.size + c.utf8Size) :
    bisect (ofText (a ++ b)).starts n 0 (ofText (a ++ b)).starts.size = a.count '\n' + 1 := by
  have hfront : ∀ start ∈ 0 :: startsAfter 0 a, start ≤ n := by
    intro start hstart
    rcases List.mem_cons.mp hstart with rfl | hstart
    · exact Nat.zero_le n
    · have := le_size_of_mem_startsAfter hstart
      omega
  have hback : ∀ start ∈ startsAfter (0 + a.size) b, n < start := by
    intro start hstart
    exact lt_of_mem_startsAfter hstart (by simpa using hlt)
  rw [bisect_eq_length (toList_starts_ofText a b) hfront hback, List.length_cons,
    length_startsAfter]

theorem exists_start_ofText (a b : Text) :
    ∃ before, a = before ++ Position.lastLine a ∧
      (ofText (a ++ b)).starts[a.count '\n']? = some before.size := by
  obtain ⟨before, hsplit, hlast⟩ := exists_lastLine a
  refine ⟨before, hsplit, ?_⟩
  have hlength : (0 :: startsAfter 0 a).length = a.count '\n' + 1 := by
    rw [List.length_cons, length_startsAfter]
  rw [List.getLast?_eq_getElem?, hlength, Nat.add_sub_cancel] at hlast
  rw [← Array.getElem?_toList, toList_starts_ofText, List.getElem?_append_left (by omega), hlast]

end Resolve

theorem resolve?_size (a b : Text) :
    (ofText (a ++ b)).resolve? a.size = some (Position.ending a) := by
  obtain ⟨before, hbefore, hstart⟩ := exists_start_ofText a b
  have hmin : min a.size (ofText (a ++ b)).input.size = a.size :=
    (Text.size_eq_min_size_append a b).symm
  have hbisect := bisect_ofText (Nat.le_refl a.size) fun c (_ : c ∈ b.head?) =>
    Nat.lt_add_of_pos_right c.utf8Size_pos
  have hline : (ofText (a ++ b)).input.slice? before.size a.size = some (Position.lastLine a) :=
    Text.slice?_eq_some_iff.mpr ⟨before, b, by rw [← hbefore]; rfl, rfl, by rw [← hbefore]⟩
  rw [resolve?_of_bisect (by rw [hmin]; exact hbisect) hstart, hmin, hline]
  rfl

theorem resolve?_min (input : Text) (offset : Nat) :
    (ofText input).resolve? (min offset input.size) = (ofText input).resolve? offset := by
  unfold resolve?
  simp only [ofText, Nat.min_assoc, Nat.min_self]

theorem resolve?_of_consumed {input consumed rest : Text} {offset : Nat}
    (hsplit : input = consumed ++ rest) (hsize : consumed.size = min offset input.size) :
    (ofText input).resolve? offset = some (Position.ending consumed) := by
  rw [← resolve?_min, ← hsize, hsplit, resolve?_size]

/-- The end of a slice is not before its beginning. -/
theorem resolve?_le_resolve? {input m : Text} {start stop : Nat}
    (h : input.slice? start stop = some m) :
    ∃ left right, (ofText input).resolve? start = some left ∧
      (ofText input).resolve? stop = some right ∧ left ≤ right := by
  obtain ⟨a, b, rfl, rfl, rfl⟩ := Text.slice?_eq_some_iff.mp h
  refine ⟨_, _, ?_, resolve?_size (a ++ m) b, Position.ending_le_append a m⟩
  rw [List.append_assoc]
  exact resolve?_size a (m ++ b)

/-- For every offset, the index and the scan give the same position, or neither gives one, which is
so just inside a character. Some line always starts at or before the offset. -/
theorem resolve?_ofText (input : Text) (offset : Nat) :
    (ofText input).resolve? offset = Position.resolve? input offset ∧
      (Position.resolve? input offset = none ↔
        offset < input.size ∧ ¬ input.IsBoundary offset) ∧
      ∃ row start,
        bisect (ofText input).starts (min offset input.size) 0 (ofText input).starts.size =
          row + 1 ∧
        (ofText input).starts[row]? = some start ∧ start ≤ min offset input.size := by
  -- `a` ends where the character begins in which the offset lies.
  obtain ⟨a, b, rfl, hle, hlt⟩ := input.exists_floor (Nat.min_le_right offset input.size)
  obtain ⟨before, hbefore, hstart⟩ := exists_start_ofText a b
  have hbisect := bisect_ofText hle hlt
  have hsize : before.size ≤ a.size := by
    rw [hbefore, Text.size_append]
    omega
  refine ⟨?_, Position.resolve?_eq_none_iff, _, _, hbisect, hstart, Nat.le_trans hsize hle⟩
  have hline := @Text.slice?_floor before (Position.lastLine a) b (min offset (a ++ b).size)
  rw [← hbefore] at hline
  rw [resolve?_of_bisect hbisect hstart, Position.resolve?, Text.before?_floor hle hlt]
  refine (congrArg _ (hline hle hlt)).trans ?_
  split <;> rfl

end LineIndex

end Descent
