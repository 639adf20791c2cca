import Descent.Text

/-!
# Marks

A value together with the bytes it was parsed from.
-/

namespace Descent

structure Mark (α : Type) where
  start : Nat
  value : α
  stop : Nat
deriving DecidableEq, Repr

namespace Mark

variable {α : Type}

/-- The number of bytes covered; none if the ends are in the wrong order. -/
def size (mark : Mark α) : Nat :=
  mark.stop - mark.start

/-- The text covered, if the mark fits the input. -/
def text? (mark : Mark α) (input : Text) : Option Text :=
  Text.slice? input mark.start mark.stop

end Mark

end Descent
