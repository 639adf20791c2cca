import Std.Data.TreeSet

/-!
# Sets of states

Finite sets of state numbers. `unseen` counts the states that are not in a set; it shrinks
whenever a new state is put in.
-/

namespace Descent.Regex

abbrev StateSet := Std.TreeSet Nat

namespace StateSet

/-- The number of states below `count` that are not in the set. -/
def unseen (count : Nat) (set : StateSet) : Nat :=
  (List.range count).countP (!set.contains ·)

theorem countP_lt_countP {p q : Nat → Bool} {states : List Nat} {state : Nat}
    (mem : state ∈ states) (new : q state = true) (seen : p state = false)
    (le : ∀ s, p s = true → q s = true) : states.countP p < states.countP q := by
  induction states with
  | nil => cases mem
  | cons s states ih =>
    have tail : states.countP p ≤ states.countP q := List.countP_mono_left fun s _ => le s
    rcases List.mem_cons.1 mem with rfl | mem
    · simp only [List.countP_cons, new, seen, if_true, Bool.false_eq_true, if_false]
      omega
    · have rest := ih mem
      have here := le s
      simp only [List.countP_cons]
      split
      · rw [if_pos (here ‹_›)]
        omega
      · omega

theorem unseen_insert_lt {count state : Nat} {set : StateSet} (lt : state < count)
    (new : set.contains state = false) :
    unseen count (set.insert state) < unseen count set := by
  refine countP_lt_countP (List.mem_range.2 lt) ?_ ?_ ?_
  · simp [new]
  · simp
  · intro s h
    rw [Std.TreeSet.contains_insert, Bool.not_eq_true', Bool.or_eq_false_iff] at h
    rw [h.2]
    rfl

theorem contains_eq_false_iff {set : StateSet} {state : Nat} :
    set.contains state = false ↔ state ∉ set := by
  rw [← Std.TreeSet.contains_iff_mem, Bool.not_eq_true]

theorem mem_insert {set : StateSet} {state s : Nat} :
    s ∈ set.insert state ↔ s = state ∨ s ∈ set := by
  rw [Std.TreeSet.mem_insert, Nat.compare_eq_eq, eq_comm]

theorem mem_insert_of_mem {set : StateSet} {state s : Nat} (h : s ∈ set) : s ∈ set.insert state :=
  mem_insert.mpr (.inr h)

end StateSet

end Descent.Regex
