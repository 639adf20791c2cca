import Descent.Position

/-!
# An index of line starts

For many look-ups in one text: the byte offsets at which its lines start, searched by bisection.
The answers are meant to be those of `Position.resolve?`.
-/

namespace Descent

structure LineIndex where
  input : Text
  starts : Array Nat

namespace LineIndex

/-- The offsets just after each line feed of a text that begins at `offset`. -/
def startsAfter (offset : Nat) : Text → List Nat
  | [] => []
  | c :: cs =>
    let next := offset + c.utf8Size
    if c = '\n' then next :: startsAfter next cs else startsAfter next cs

/-- The first line starts at zero, whatever the text. -/
def ofText (input : Text) : LineIndex where
  input := input
  starts := (0 :: startsAfter 0 input).toArray

def lineCount (index : LineIndex) : Nat :=
  index.starts.size

/-- Bisection: the first place in `[low, high)` whose entry exceeds `offset`, or else `high`. -/
def bisect (starts : Array Nat) (offset low high : Nat) : Nat :=
  if low < high then
    let middle := low + (high - low) / 2
    if (starts[middle]?).any (· ≤ offset) then bisect starts offset (middle + 1) high
    else bisect starts offset low middle
  else low
termination_by high - low

/-- The position of a byte offset, found from the line that starts last at or before it. -/
def resolve? (index : LineIndex) (offset : Nat) : Option Position :=
  let offset := min offset (Text.size index.input)
  match bisect index.starts offset 0 index.starts.size with
  | 0 => none
  | row + 1 => do
    let start ← index.starts[row]?
    let line ← Text.slice? index.input start offset
    return { row, col := line.length }

end LineIndex

end Descent
