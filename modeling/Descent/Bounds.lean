import Descent.GrammarError

/-!
# Bounds of a repetition

How often something may be repeated: at least so often, and at most so often unless there is no
upper bound.
-/

namespace Descent

structure Bounds where
  least : Nat
  most : Option Nat
  ordered : ∀ m ∈ most, least ≤ m

namespace Bounds

/-- Bounds are refused if the lower one exceeds the upper one. -/
def make (least : Nat) (most : Option Nat) : Except GrammarError Bounds :=
  match most with
  | none => .ok { least, most := none, ordered := by simp }
  | some m =>
    if h : least ≤ m then .ok { least, most := some m, ordered := by simpa using h }
    else .error (.invertedRepetition least m)

def atLeast (least : Nat) : Bounds where
  least := least
  most := none
  ordered := by simp

def atMost (most : Nat) : Bounds where
  least := 0
  most := some most
  ordered := by simp

def exactly (count : Nat) : Bounds where
  least := count
  most := some count
  ordered := by simp

theorem make_eq_error_iff {least : Nat} {most : Option Nat} {e : GrammarError} :
    make least most = .error e ↔
      ∃ m, most = some m ∧ m < least ∧ e = .invertedRepetition least m := by
  cases most with
  | none => simp [make]
  | some m =>
    by_cases h : least ≤ m
    · simp [make, h, Nat.not_lt.2 h]
    · simp [make, h, eq_comm, Nat.lt_of_not_le h]

end Bounds

end Descent
