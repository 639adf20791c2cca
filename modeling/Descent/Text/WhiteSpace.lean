import Descent.Text.Ranges

/-!
# White space

The characters with the Unicode property White_Space.
-/

namespace Descent.Text

/-- The inclusive ranges of the code points of white space, in ascending order. -/
def whiteSpaceRanges : Ranges :=
  [(0x09, 0x0D), (0x20, 0x20), (0x85, 0x85), (0xA0, 0xA0), (0x1680, 0x1680), (0x2000, 0x200A),
    (0x2028, 0x2029), (0x202F, 0x202F), (0x205F, 0x205F), (0x3000, 0x3000)]

def isWhiteSpace (c : Char) : Bool :=
  Ranges.contains whiteSpaceRanges c.toNat

end Descent.Text
