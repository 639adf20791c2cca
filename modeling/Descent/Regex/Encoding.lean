import Descent.Regex.CharClass

/-!
# Classes as byte sequences

The UTF-8 forms of the members of a class, as sequences of byte ranges. A sequence stands for all
ways to take one byte out of each of its ranges; the sequences of a class are in ascending order
and have no member in common.
-/

namespace Descent.Regex

abbrev ByteRange := Nat × Nat

namespace Encoding

def continuation : ByteRange :=
  (0x80, 0xBF)

/-- How many code points share what comes before so many continuation bytes. -/
def block : Nat → Nat
  | 0 => 1
  | more + 1 => 64 * block more

/-- The sequences of the numbers from `low` to `high`, which are written as a byte counted from
`lead` and `more` continuation bytes. Only the two ends of the range can need bytes of their own;
what lies between them is one sequence. -/
def sequences (lead : Nat) : Nat → Nat → Nat → List (List ByteRange)
  | 0, low, high => [[(lead + low, lead + high)]]
  | more + 1, low, high =>
    let size := block (more + 1)
    let starting (n low high : Nat) :=
      (sequences 0x80 more low high).map ((lead + n, lead + n) :: ·)
    let first := low / size
    let last := high / size
    let isFirstWhole := low % size == 0
    let isLastWhole := high % size == size - 1
    if first = last && !(isFirstWhole && isLastWhole) then
      starting first (low % size) (high % size)
    else
      let start := if isFirstWhole then first else first + 1
      let stop := if isLastWhole then last + 1 else last
      (if isFirstWhole then [] else starting first (low % size) (size - 1))
        ++ (if start < stop then
            [(lead + start, lead + stop - 1) :: List.replicate (more + 1) continuation]
          else [])
        ++ (if isLastWhole then [] else starting last 0 (high % size))

/-- The ranges of code points that are written alike: the first, the last, the continuation bytes
and the smallest possible lead. -/
def forms : List (Nat × Nat × Nat × Nat) :=
  [(0x00, 0x7F, 0, 0x00), (0x80, 0x7FF, 1, 0xC0), (0x800, 0xD7FF, 2, 0xE0),
    (0xE000, 0xFFFF, 2, 0xE0), (0x10000, 0x10FFFF, 3, 0xF0)]

def ofRange (low high : Nat) : List (List ByteRange) :=
  forms.flatMap fun (first, last, more, lead) =>
    let low := max low first
    let high := min high last
    if low ≤ high then sequences lead more low high else []

/-- The sequences that continue each first byte range, of neighbours with the same one. -/
def branches : List (List ByteRange) → List (ByteRange × List (List ByteRange))
  | [] => []
  | [] :: rest => branches rest
  | (b :: bs) :: rest =>
    match branches rest with
    | (b', tails) :: more =>
      if b = b' then (b, bs :: tails) :: more else (b, [bs]) :: (b', tails) :: more
    | [] => [(b, [bs])]

end Encoding

namespace CharClass

def encoding (c : CharClass) : List (List ByteRange) :=
  c.ranges.flatMap fun (low, high) => Encoding.ofRange low high

end CharClass

end Descent.Regex
