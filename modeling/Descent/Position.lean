import Descent.Text

/-!
# Rows and columns

A position counts line breaks and the characters after the last one, both from zero. Only a line
feed ends a row. `Position.resolve?` scans the text before a byte offset; it takes every offset
past the end for the end, and has no answer inside a character.
-/

namespace Descent

structure Position where
  row : Nat
  col : Nat
deriving DecidableEq, Repr

namespace Position

/-- Positions are ordered by row, then by column. -/
instance : LT Position where
  lt p q := p.row < q.row ∨ p.row = q.row ∧ p.col < q.col

instance : LE Position where
  le p q := p.row < q.row ∨ p.row = q.row ∧ p.col ≤ q.col

theorem lt_iff {p q : Position} : p < q ↔ p.row < q.row ∨ p.row = q.row ∧ p.col < q.col :=
  Iff.rfl

theorem le_iff {p q : Position} : p ≤ q ↔ p.row < q.row ∨ p.row = q.row ∧ p.col ≤ q.col :=
  Iff.rfl

instance (p q : Position) : Decidable (p < q) :=
  decidable_of_iff _ lt_iff.symm

instance (p q : Position) : Decidable (p ≤ q) :=
  decidable_of_iff _ le_iff.symm

/-- A reader counts rows and columns from one. -/
instance : ToString Position where
  toString p := s!"{p.row + 1}:{p.col + 1}"

def lastLine (t : Text) : Text :=
  (t.reverse.takeWhile (· != '\n')).reverse

def ending (t : Text) : Position where
  row := t.count '\n'
  col := (lastLine t).length

def resolve? (input : Text) (offset : Nat) : Option Position :=
  (Text.before? input (min offset (Text.size input))).map ending

end Position

end Descent
