import Descent.Text.Hexadecimal

/-!
# Ranges of code points

Sets of characters as lists of inclusive ranges of code points, in ascending order and apart from
each other, so that one set has one list. Surrogates are no characters: no set reaches into them
from the outside.
-/

namespace Descent.Text

abbrev Ranges := List (Nat × Nat)

namespace Ranges

/-- Ranges ascend, so a number below the first one is in none of them. -/
def contains : Ranges → Nat → Bool
  | [], _ => false
  | (low, high) :: rest, n => low ≤ n && (n ≤ high || contains rest n)

/-- Adds a range and merges it with all that it overlaps or touches. -/
def insert (low high : Nat) : Ranges → Ranges
  | [] => [(low, high)]
  | (l, h) :: rest =>
    if high + 1 < l then (low, high) :: (l, h) :: rest
    else if h + 1 < low then (l, h) :: insert low high rest
    else insert (min low l) (max high h) rest

/-- Merges ranges that begin before `low` with a range that begins there and what follows it. -/
def insertAll (low high : Nat) (follow : Ranges → Ranges) : Ranges → Ranges
  | [] => insert low high (follow [])
  | (l, h) :: rest =>
    if low ≤ l then insert low high (follow ((l, h) :: rest))
    else insert l h (insertAll low high follow rest)

def union : Ranges → Ranges → Ranges
  | [] => id
  | (low, high) :: rest => insertAll low high (union rest)

def unions (sets : List Ranges) : Ranges :=
  sets.foldr union []

def ofList (ranges : List (Nat × Nat)) : Ranges :=
  ranges.foldr (fun (low, high) ranges => insert low high ranges) []

def isSurrogate (n : Nat) : Bool :=
  0xD800 ≤ n && n ≤ 0xDFFF

def between (first last : Nat) : Ranges :=
  let first := if isSurrogate first then 0xE000 else first
  let last := if isSurrogate last then 0xD7FF else last
  if first ≤ last then [(first, last)] else []

/-- The characters from `first` on that are not in the ranges. -/
def complementFrom (first : Nat) : Ranges → Ranges
  | [] => between first 0x10FFFF
  | (low, high) :: rest =>
    (if first < low then between first (low - 1) else []) ++ complementFrom (high + 1) rest

def complement (ranges : Ranges) : Ranges :=
  complementFrom 0 ranges

def inter (a b : Ranges) : Ranges :=
  (a.complement.union b.complement).complement

def diff (a b : Ranges) : Ranges :=
  (a.complement.union b).complement

/-- Reads code points and ranges of them off a text. `low` and `value` are what has been read of
the current one: the number before a hyphen, and the number after it or, without a hyphen, the only
one. -/
def readFrom (low value : Option Nat) : List Char → Ranges
  | [] => (value.map fun value => (low.getD value, value)).toList
  | c :: cs =>
    if isHexDigit c then readFrom low (some (16 * value.getD 0 + hexValue c)) cs
    else if c = '-' then readFrom value none cs
    else (value.map fun value => (low.getD value, value)).toList ++ readFrom none none cs

/-- Ranges written as hexadecimal code points, such as `41-5A 61-7A AA`, in ascending order and
with white space between them. -/
def ofText (text : String) : Ranges :=
  readFrom none none text.toList

/-- Ranges in ascending order with a gap between neighbours, all from `first` on. -/
def Ascending (first : Nat) : Ranges → Prop
  | [] => True
  | (low, high) :: rest => first ≤ low ∧ low ≤ high ∧ Ascending (high + 2) rest

theorem Ascending.mono {first first' : Nat} {ranges : Ranges} (h : Ascending first ranges)
    (le : first' ≤ first) : Ascending first' ranges := by
  cases ranges with
  | nil => trivial
  | cons r rest => exact ⟨Nat.le_trans le h.1, h.2⟩

theorem contains_eq_false_of_lt {first n : Nat} {ranges : Ranges} (h : Ascending first ranges)
    (lt : n < first) : contains ranges n = false := by
  cases ranges with
  | nil => rfl
  | cons r rest =>
    have : ¬r.1 ≤ n := by
      have := h.1
      omega
    simp [contains, this]

theorem contains_cons {first low high n : Nat} {rest : Ranges}
    (h : Ascending first ((low, high) :: rest)) :
    contains ((low, high) :: rest) n = (decide (low ≤ n ∧ n ≤ high) || contains rest n) := by
  obtain ⟨_, le, after⟩ := h
  by_cases hn : n < high + 2
  · simp [contains, contains_eq_false_of_lt after hn]
  · have : low ≤ n := by omega
    simp [contains, this]

theorem ascending_insert {first low high : Nat} {ranges : Ranges} (h : Ascending first ranges)
    (from_le : first ≤ low) (le : low ≤ high) : Ascending first (insert low high ranges) := by
  induction ranges generalizing first low high with
  | nil => exact ⟨from_le, le, trivial⟩
  | cons r rest ih =>
    obtain ⟨l, hi⟩ := r
    obtain ⟨first_le, l_le, after⟩ := h
    simp only [insert]
    split
    · exact ⟨from_le, le, by omega, l_le, after⟩
    · split
      · exact ⟨first_le, l_le, ih after (by omega) le⟩
      · exact ih (after.mono (by omega)) (by omega) (by omega)

/-- Inserting a range adds the numbers in the range and no others. -/
theorem contains_insert {first low high n : Nat} {ranges : Ranges} (h : Ascending first ranges)
    (le : low ≤ high) :
    contains (insert low high ranges) n = (decide (low ≤ n ∧ n ≤ high) || contains ranges n) := by
  induction ranges generalizing first low high with
  | nil => simp [insert, contains]
  | cons r rest ih =>
    obtain ⟨l, hi⟩ := r
    have split_cons := contains_cons (n := n) h
    obtain ⟨first_le, l_le, after⟩ := h
    simp only [insert]
    split
    · have sorted : Ascending low ((low, high) :: (l, hi) :: rest) :=
        ⟨Nat.le_refl low, le, by omega, l_le, after⟩
      rw [contains_cons sorted]
    · split
      · have sorted : Ascending first ((l, hi) :: insert low high rest) :=
          ⟨first_le, l_le, ascending_insert after (by omega) le⟩
        rw [contains_cons sorted, split_cons, ih after le, Bool.or_left_comm]
      · have merged :
            decide (min low l ≤ n ∧ n ≤ max high hi) =
              (decide (low ≤ n ∧ n ≤ high) || decide (l ≤ n ∧ n ≤ hi)) := by
          rw [Bool.eq_iff_iff]
          simp only [Bool.or_eq_true, decide_eq_true_eq]
          omega
        rw [ih after (by omega), split_cons, merged, Bool.or_assoc]

theorem ascending_insertAll {first low high : Nat} {ranges : Ranges} {follow : Ranges → Ranges}
    (from_le : first ≤ low) (le : low ≤ high) (h : Ascending first ranges)
    (keeps : ∀ ranges, Ascending first ranges → Ascending first (follow ranges)) :
    Ascending first (insertAll low high follow ranges) := by
  induction ranges with
  | nil => exact ascending_insert (keeps [] trivial) from_le le
  | cons r rest ih =>
    obtain ⟨l, hi⟩ := r
    obtain ⟨first_le, l_le, after⟩ := h
    simp only [insertAll]
    split
    · exact ascending_insert (keeps _ ⟨first_le, l_le, after⟩) from_le le
    · exact ascending_insert (ih (after.mono (by omega))) first_le l_le

theorem ascending_union {first : Nat} {a b : Ranges} (ha : Ascending first a)
    (hb : Ascending first b) : Ascending first (union a b) := by
  induction a generalizing b with
  | nil => exact hb
  | cons r rest ih =>
    obtain ⟨first_le, le, after⟩ := ha
    exact ascending_insertAll first_le le hb fun _ => ih (after.mono (by omega))

theorem contains_insertAll {first low high n : Nat} {set ranges : Ranges}
    {follow : Ranges → Ranges} (from_le : first ≤ low) (le : low ≤ high)
    (h : Ascending first ranges)
    (keeps : ∀ ranges, Ascending first ranges → Ascending first (follow ranges))
    (adds : ∀ ranges, Ascending first ranges →
      contains (follow ranges) n = (contains set n || contains ranges n)) :
    contains (insertAll low high follow ranges) n =
      (decide (low ≤ n ∧ n ≤ high) || contains set n || contains ranges n) := by
  induction ranges with
  | nil => rw [insertAll, contains_insert (keeps [] trivial) le, adds [] trivial, Bool.or_assoc]
  | cons r rest ih =>
    obtain ⟨l, hi⟩ := r
    have ascending := h
    obtain ⟨first_le, l_le, after⟩ := h
    have rest_ascending := after.mono (show first ≤ hi + 2 by omega)
    simp only [insertAll]
    split
    · rw [contains_insert (keeps _ ascending) le, adds _ ascending, Bool.or_assoc]
    · rw [contains_insert (ascending_insertAll from_le le rest_ascending keeps) l_le,
        ih rest_ascending, contains_cons ascending, Bool.or_left_comm]

/-- A union has the numbers of both sets and no others. -/
theorem contains_union {first n : Nat} {a b : Ranges} (ha : Ascending first a)
    (hb : Ascending first b) : contains (union a b) n = (contains a n || contains b n) := by
  induction a generalizing b with
  | nil => simp [union, contains]
  | cons r rest ih =>
    have ascending := ha
    obtain ⟨first_le, le, after⟩ := ha
    have rest_ascending := after.mono (show first ≤ r.2 + 2 by omega)
    rw [contains_cons ascending]
    exact contains_insertAll first_le le hb (fun _ h => ascending_union rest_ascending h)
      fun _ h => ih rest_ascending h

end Ranges

end Descent.Text
