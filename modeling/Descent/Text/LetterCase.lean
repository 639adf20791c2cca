/-!
# Letter case

The pairs of characters that differ in letter case alone, by the simple case folding of Unicode.
-/

namespace Descent.Text

/-- The characters `first`, `first + step` and so on, `count` of them, each of which has another
form `shift` further on. -/
structure CaseRun where
  first : Nat
  step : Nat
  count : Nat
  shift : Nat
deriving DecidableEq, Repr

def CaseRun.pairs (run : CaseRun) : List (Nat × Nat) :=
  (List.range run.count).map fun i =>
    let letter := run.first + run.step * i
    (letter, letter + run.shift)

def caseRuns : List CaseRun :=
  [⟨0x41, 1, 26, 32⟩, ⟨0x4B, 1, 1, 8415⟩, ⟨0x53, 1, 1, 300⟩, ⟨0x6B, 1, 1, 8383⟩,
    ⟨0x73, 1, 1, 268⟩, ⟨0xB5, 1, 1, 743⟩, ⟨0xB5, 1, 1, 775⟩, ⟨0xC0, 1, 23, 32⟩,
    ⟨0xC5, 1, 1, 8294⟩, ⟨0xD8, 1, 7, 32⟩, ⟨0xDF, 1, 1, 7615⟩, ⟨0xE5, 1, 1, 8262⟩,
    ⟨0xFF, 1, 1, 121⟩, ⟨0x100, 2, 24, 1⟩, ⟨0x132, 2, 3, 1⟩, ⟨0x139, 2, 8, 1⟩, ⟨0x14A, 2, 23, 1⟩,
    ⟨0x179, 2, 3, 1⟩, ⟨0x180, 1, 1, 195⟩, ⟨0x181, 1, 1, 210⟩, ⟨0x182, 2, 2, 1⟩,
    ⟨0x186, 1, 1, 206⟩, ⟨0x187, 1, 1, 1⟩, ⟨0x189, 1, 2, 205⟩, ⟨0x18B, 1, 1, 1⟩,
    ⟨0x18E, 1, 1, 79⟩, ⟨0x18F, 1, 1, 202⟩, ⟨0x190, 1, 1, 203⟩, ⟨0x191, 1, 1, 1⟩,
    ⟨0x193, 1, 1, 205⟩, ⟨0x194, 1, 1, 207⟩, ⟨0x195, 1, 1, 97⟩, ⟨0x196, 1, 1, 211⟩,
    ⟨0x197, 1, 1, 209⟩, ⟨0x198, 1, 1, 1⟩, ⟨0x19A, 1, 1, 163⟩, ⟨0x19B, 1, 1, 42561⟩,
    ⟨0x19C, 1, 1, 211⟩, ⟨0x19D, 1, 1, 213⟩, ⟨0x19E, 1, 1, 130⟩, ⟨0x19F, 1, 1, 214⟩,
    ⟨0x1A0, 2, 3, 1⟩, ⟨0x1A6, 1, 1, 218⟩, ⟨0x1A7, 1, 1, 1⟩, ⟨0x1A9, 1, 1, 218⟩, ⟨0x1AC, 1, 1, 1⟩,
    ⟨0x1AE, 1, 1, 218⟩, ⟨0x1AF, 1, 1, 1⟩, ⟨0x1B1, 1, 2, 217⟩, ⟨0x1B3, 2, 2, 1⟩,
    ⟨0x1B7, 1, 1, 219⟩, ⟨0x1B8, 1, 1, 1⟩, ⟨0x1BC, 1, 1, 1⟩, ⟨0x1BF, 1, 1, 56⟩, ⟨0x1C4, 1, 1, 2⟩,
    ⟨0x1C4, 1, 2, 1⟩, ⟨0x1C7, 1, 1, 2⟩, ⟨0x1C7, 1, 2, 1⟩, ⟨0x1CA, 1, 1, 2⟩, ⟨0x1CA, 1, 2, 1⟩,
    ⟨0x1CD, 2, 8, 1⟩, ⟨0x1DE, 2, 9, 1⟩, ⟨0x1F1, 1, 1, 2⟩, ⟨0x1F1, 1, 2, 1⟩, ⟨0x1F4, 1, 1, 1⟩,
    ⟨0x1F8, 2, 20, 1⟩, ⟨0x222, 2, 9, 1⟩, ⟨0x23A, 1, 1, 10795⟩, ⟨0x23B, 1, 1, 1⟩,
    ⟨0x23E, 1, 1, 10792⟩, ⟨0x23F, 1, 2, 10815⟩, ⟨0x241, 1, 1, 1⟩, ⟨0x244, 1, 1, 69⟩,
    ⟨0x245, 1, 1, 71⟩, ⟨0x246, 2, 5, 1⟩, ⟨0x250, 1, 1, 10783⟩, ⟨0x251, 1, 1, 10780⟩,
    ⟨0x252, 1, 1, 10782⟩, ⟨0x25C, 1, 1, 42319⟩, ⟨0x261, 1, 1, 42315⟩, ⟨0x264, 1, 1, 42343⟩,
    ⟨0x265, 1, 1, 42280⟩, ⟨0x266, 1, 1, 42308⟩, ⟨0x26A, 1, 1, 42308⟩, ⟨0x26B, 1, 1, 10743⟩,
    ⟨0x26C, 1, 1, 42305⟩, ⟨0x271, 1, 1, 10749⟩, ⟨0x27D, 1, 1, 10727⟩, ⟨0x282, 1, 1, 42307⟩,
    ⟨0x287, 1, 1, 42282⟩, ⟨0x29D, 1, 1, 42261⟩, ⟨0x29E, 1, 1, 42258⟩, ⟨0x345, 1, 1, 84⟩,
    ⟨0x345, 1, 1, 116⟩, ⟨0x345, 1, 1, 7289⟩, ⟨0x370, 2, 2, 1⟩, ⟨0x376, 1, 1, 1⟩,
    ⟨0x37B, 1, 3, 130⟩, ⟨0x37F, 1, 1, 116⟩, ⟨0x386, 1, 1, 38⟩, ⟨0x388, 1, 3, 37⟩,
    ⟨0x38C, 1, 1, 64⟩, ⟨0x38E, 1, 2, 63⟩, ⟨0x390, 1, 1, 7235⟩, ⟨0x391, 1, 17, 32⟩,
    ⟨0x392, 1, 1, 62⟩, ⟨0x395, 1, 1, 96⟩, ⟨0x398, 1, 1, 57⟩, ⟨0x398, 1, 1, 92⟩,
    ⟨0x399, 1, 1, 7205⟩, ⟨0x39A, 1, 1, 86⟩, ⟨0x3A0, 1, 1, 54⟩, ⟨0x3A1, 1, 1, 80⟩,
    ⟨0x3A3, 1, 1, 31⟩, ⟨0x3A3, 1, 9, 32⟩, ⟨0x3A6, 1, 1, 47⟩, ⟨0x3A9, 1, 1, 7549⟩,
    ⟨0x3B0, 1, 1, 7219⟩, ⟨0x3B2, 1, 1, 30⟩, ⟨0x3B5, 1, 1, 64⟩, ⟨0x3B8, 1, 1, 25⟩,
    ⟨0x3B8, 1, 1, 60⟩, ⟨0x3B9, 1, 1, 7173⟩, ⟨0x3BA, 1, 1, 54⟩, ⟨0x3C0, 1, 1, 22⟩,
    ⟨0x3C1, 1, 1, 48⟩, ⟨0x3C2, 1, 1, 1⟩, ⟨0x3C6, 1, 1, 15⟩, ⟨0x3C9, 1, 1, 7517⟩,
    ⟨0x3CF, 1, 1, 8⟩, ⟨0x3D1, 1, 1, 35⟩, ⟨0x3D8, 2, 12, 1⟩, ⟨0x3F2, 1, 1, 7⟩, ⟨0x3F7, 1, 1, 1⟩,
    ⟨0x3FA, 1, 1, 1⟩, ⟨0x400, 1, 16, 80⟩, ⟨0x410, 1, 32, 32⟩, ⟨0x412, 1, 1, 6254⟩,
    ⟨0x414, 1, 1, 6253⟩, ⟨0x41E, 1, 1, 6244⟩, ⟨0x421, 1, 2, 6242⟩, ⟨0x422, 1, 1, 6243⟩,
    ⟨0x42A, 1, 1, 6236⟩, ⟨0x432, 1, 1, 6222⟩, ⟨0x434, 1, 1, 6221⟩, ⟨0x43E, 1, 1, 6212⟩,
    ⟨0x441, 1, 2, 6210⟩, ⟨0x442, 1, 1, 6211⟩, ⟨0x44A, 1, 1, 6204⟩, ⟨0x460, 2, 17, 1⟩,
    ⟨0x462, 1, 1, 6181⟩, ⟨0x463, 1, 1, 6180⟩, ⟨0x48A, 2, 27, 1⟩, ⟨0x4C0, 1, 1, 15⟩,
    ⟨0x4C1, 2, 7, 1⟩, ⟨0x4D0, 2, 48, 1⟩, ⟨0x531, 1, 38, 48⟩, ⟨0x10A0, 1, 38, 7264⟩,
    ⟨0x10C7, 1, 1, 7264⟩, ⟨0x10CD, 1, 1, 7264⟩, ⟨0x10D0, 1, 43, 3008⟩, ⟨0x10FD, 1, 3, 3008⟩,
    ⟨0x13A0, 1, 80, 38864⟩, ⟨0x13F0, 1, 6, 8⟩, ⟨0x1C84, 1, 1, 1⟩, ⟨0x1C88, 1, 1, 35266⟩,
    ⟨0x1C88, 1, 1, 35267⟩, ⟨0x1C89, 1, 1, 1⟩, ⟨0x1D79, 1, 1, 35332⟩, ⟨0x1D7D, 1, 1, 3814⟩,
    ⟨0x1D8E, 1, 1, 35384⟩, ⟨0x1E00, 2, 75, 1⟩, ⟨0x1E60, 1, 1, 59⟩, ⟨0x1E61, 1, 1, 58⟩,
    ⟨0x1EA0, 2, 48, 1⟩, ⟨0x1F00, 1, 8, 8⟩, ⟨0x1F10, 1, 6, 8⟩, ⟨0x1F20, 1, 8, 8⟩,
    ⟨0x1F30, 1, 8, 8⟩, ⟨0x1F40, 1, 6, 8⟩, ⟨0x1F51, 2, 4, 8⟩, ⟨0x1F60, 1, 8, 8⟩,
    ⟨0x1F70, 1, 2, 74⟩, ⟨0x1F72, 1, 4, 86⟩, ⟨0x1F76, 1, 2, 100⟩, ⟨0x1F78, 1, 2, 128⟩,
    ⟨0x1F7A, 1, 2, 112⟩, ⟨0x1F7C, 1, 2, 126⟩, ⟨0x1F80, 1, 8, 8⟩, ⟨0x1F90, 1, 8, 8⟩,
    ⟨0x1FA0, 1, 8, 8⟩, ⟨0x1FB0, 1, 2, 8⟩, ⟨0x1FB3, 1, 1, 9⟩, ⟨0x1FC3, 1, 1, 9⟩,
    ⟨0x1FD0, 1, 2, 8⟩, ⟨0x1FE0, 1, 2, 8⟩, ⟨0x1FE5, 1, 1, 7⟩, ⟨0x1FF3, 1, 1, 9⟩,
    ⟨0x2132, 1, 1, 28⟩, ⟨0x2160, 1, 16, 16⟩, ⟨0x2183, 1, 1, 1⟩, ⟨0x24B6, 1, 26, 26⟩,
    ⟨0x2C00, 1, 48, 48⟩, ⟨0x2C60, 1, 1, 1⟩, ⟨0x2C67, 2, 3, 1⟩, ⟨0x2C72, 1, 1, 1⟩,
    ⟨0x2C75, 1, 1, 1⟩, ⟨0x2C80, 2, 50, 1⟩, ⟨0x2CEB, 2, 2, 1⟩, ⟨0x2CF2, 1, 1, 1⟩,
    ⟨0xA640, 2, 23, 1⟩, ⟨0xA680, 2, 14, 1⟩, ⟨0xA722, 2, 7, 1⟩, ⟨0xA732, 2, 31, 1⟩,
    ⟨0xA779, 2, 2, 1⟩, ⟨0xA77E, 2, 5, 1⟩, ⟨0xA78B, 1, 1, 1⟩, ⟨0xA790, 2, 2, 1⟩,
    ⟨0xA794, 1, 1, 48⟩, ⟨0xA796, 2, 10, 1⟩, ⟨0xA7B3, 1, 1, 928⟩, ⟨0xA7B4, 2, 8, 1⟩,
    ⟨0xA7C7, 2, 2, 1⟩, ⟨0xA7CC, 1, 1, 1⟩, ⟨0xA7D0, 1, 1, 1⟩, ⟨0xA7D6, 2, 3, 1⟩,
    ⟨0xA7F5, 1, 1, 1⟩, ⟨0xFB05, 1, 1, 1⟩, ⟨0xFF21, 1, 26, 32⟩, ⟨0x10400, 1, 40, 40⟩,
    ⟨0x104B0, 1, 36, 40⟩, ⟨0x10570, 1, 11, 39⟩, ⟨0x1057C, 1, 15, 39⟩, ⟨0x1058C, 1, 7, 39⟩,
    ⟨0x10594, 1, 2, 39⟩, ⟨0x10C80, 1, 51, 64⟩, ⟨0x10D50, 1, 22, 32⟩, ⟨0x118A0, 1, 32, 32⟩,
    ⟨0x16E40, 1, 32, 32⟩, ⟨0x1E900, 1, 34, 34⟩]

/-- All pairs of forms of a letter, the smaller code point first. -/
def casePairs : List (Nat × Nat) :=
  caseRuns.flatMap CaseRun.pairs

end Descent.Text
