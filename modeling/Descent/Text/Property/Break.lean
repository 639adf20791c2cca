import Descent.Text.Property.Derived
import Descent.Text.Property.Script

/-!
# Breaks

The classes of characters by which a text is broken into graphemes, words and sentences. A
character that is in none of the classes has no name here.
-/

namespace Descent.Text

namespace Break

open Property

def carriageReturn : Ranges :=
  .ofText "D"

def lineFeed : Ranges :=
  .ofText "A"

def joiner : Ranges :=
  .ofText "200D"

/-- Marks that are written before or around the characters after them. -/
def prepended : Ranges :=
  prependedConcatenationMark.union
    (.ofText "D4E 111C2-111C3 113D1 1193F 11941 11A3A 11A84-11A89 11D46 11F02")

def graphemeControl : Ranges :=
  ((Category.rangesOf [.lineSeparator, .paragraphSeparator, .control, .format]).union
      (Category.unassigned.ranges.inter defaultIgnorable)).diff
    (.unions [.ofText "A D 200C 200D", prependedConcatenationMark, graphemeExtend])

def extendGrapheme : Ranges :=
  graphemeExtend.union emojiModifier

/-- Spacing marks that belong to the grapheme before them. -/
def spacingMark : Ranges :=
  (Category.spacingMark.ranges.union (.ofText "E33 EB3")).diff
    (.unions [extendGrapheme, .ofText "
      102B 102C 1038 1062-1064 1067-106D 1083 1087-108C 108F 109A-109C 1A61 1A63 1A64 AA7B AA7D
      11720 11721"])

/-- Syllables of Hangul without a final consonant stand every twenty-eight code points. -/
def openSyllables : Ranges :=
  (List.range 399).map fun i => (0xAC00 + 28 * i, 0xAC00 + 28 * i)

def closedSyllables : Ranges :=
  (List.range 399).map fun i => (0xAC01 + 28 * i, 0xAC1B + 28 * i)

/-- The classes for graphemes, under the loose forms of their names. -/
def grapheme : List (List String × Ranges) :=
  [(["cn", "control"], graphemeControl),
    (["cr"], carriageReturn),
    (["ex", "extend"], extendGrapheme),
    (["l"], .ofText "1100-115F A960-A97C"),
    (["lf"], lineFeed),
    (["lv"], openSyllables),
    (["lvt"], closedSyllables),
    (["pp", "prepend"], prepended),
    (["ri", "regionalindicator"], regionalIndicator),
    (["sm", "spacingmark"], spacingMark),
    (["t"], .ofText "11A8-11FF D7CB-D7FB"),
    (["v"], .ofText "1160-11A7 D7B0-D7C6 16D63 16D67-16D6A"),
    (["zwj"], joiner)]

def scriptsOf (codes : List String) : Ranges :=
  .unions (Script.all.filterMap fun script =>
    if codes.contains script.code then some script.ranges else none)

def extendWord : Ranges :=
  (Ranges.unions [graphemeExtend, Category.spacingMark.ranges, emojiModifier]).diff joiner

def hebrewLetter : Ranges :=
  (scriptsOf ["hebr"]).inter Category.otherLetter.ranges

def katakana : Ranges :=
  (scriptsOf ["kana"]).union (.ofText "3031-3035 309B 309C 30A0 30FC FF70")

/-- Scripts whose words are not separated, so that their letters say nothing about words, and
scripts whose letters have classes of their own. -/
def otherwiseSeparated : Ranges :=
  .unions [ideographic, katakana, hebrewLetter,
    scriptsOf ["ahom", "hira", "khmr", "lana", "laoo", "mymr", "tale", "talu", "tavt", "thai"]]

def wordLetter : Ranges :=
  (alphabeticRanges.union (.ofText "
      2C2-2C5 2D2-2D7 2DE-2DF 2E5-2EB 2ED 2EF-2FF 55A-55C 55E 58A 5F3 70F A708-A716 A720-A721
      A789-A78A AB5B")).diff
    (otherwiseSeparated.union extendWord)

/-- Marks that span numbers, as numbers do themselves, which the mark of abbreviations does not. -/
def numberMark : Ranges :=
  prependedConcatenationMark.diff (.ofText "70F")

def wordFormat : Ranges :=
  Category.format.ranges.diff
    (.unions [.ofText "200B-200D", graphemeExtend, prependedConcatenationMark])

/-- The classes for words, under the loose forms of their names. -/
def word : List (List String × Ranges) :=
  [(["cr"], carriageReturn),
    (["dq", "doublequote"], .ofText "22"),
    (["ex", "extendnumlet"], .ofText "5F 202F 203F-2040 2054 FE33-FE34 FE4D-FE4F FF3F"),
    (["extend"], extendWord),
    (["fo", "format"], wordFormat),
    (["hl", "hebrewletter"], hebrewLetter),
    (["ka", "katakana"], katakana),
    (["le", "aletter"], wordLetter),
    (["lf"], lineFeed),
    (["mb", "midnumlet"], midLetterOrNumber),
    (["ml", "midletter"], midLetter),
    (["mn", "midnum"], .ofText "
      2C 3B 37E 589 60C-60D 66C 7F8 2044 FE10 FE14 FE50 FE54 FF0C FF1B"),
    (["nl", "newline"], .ofText "B-C 85 2028-2029"),
    (["nu", "numeric"], .unions [decimalDigitRanges, .ofText "66B", numberMark]),
    (["ri", "regionalindicator"], regionalIndicator),
    (["sq", "singlequote"], apostrophe),
    (["wsegspace"], .ofText "20 1680 2000-2006 2008-200A 205F 3000"),
    (["zwj"], joiner)]

def sentenceLower : Ranges :=
  lowercase.diff (graphemeExtend.union georgianLowercase)

/-- Georgian capitals do not begin sentences. -/
def sentenceUpper : Ranges :=
  (uppercase.union Category.titlecaseLetter.ranges).diff (.ofText "1C90-1CBA 1CBD-1CBF")

def extendSentence : Ranges :=
  .unions [graphemeExtend, Category.spacingMark.ranges, joiner]

def fullStop : Ranges :=
  .ofText "2E 2024 FE52 FF0E"

def sentenceEnd : Ranges :=
  sentenceTerminal.diff fullStop

def closing : Ranges :=
  (Ranges.unions [Category.rangesOf [.openPunctuation, .closePunctuation, .initialPunctuation,
      .finalPunctuation],
    .ofText "22 27 275B-2760 2E00-2E01 2E06-2E08 2E0B 1F676-1F678"]).diff
    (fullStop.union sentenceEnd)

def sentenceFormat : Ranges :=
  Category.format.ranges.diff
    (.unions [.ofText "200C-200D", graphemeExtend, numberMark])

/-- The classes for sentences, under the loose forms of their names. -/
def sentence : List (List String × Ranges) :=
  [(["at", "aterm"], fullStop),
    (["cl", "close"], closing),
    (["cr"], carriageReturn),
    (["ex", "extend"], extendSentence),
    (["fo", "format"], sentenceFormat),
    (["le", "oletter"],
      (alphabeticRanges.union (.ofText "5F3")).diff
        (.unions [sentenceLower, sentenceUpper, extendSentence])),
    (["lf"], lineFeed),
    (["lo", "lower"], sentenceLower),
    (["nu", "numeric"], .unions [decimalDigitRanges, .ofText "66B-66C", numberMark]),
    (["sc", "scontinue"], .ofText "
      2C-2D 3A-3B 37E 55D 60C-60D 7F8 1802 1808 2013-2014 3001 FE10-FE11 FE13-FE14 FE31-FE32
      FE50-FE51 FE54-FE55 FE58 FE63 FF0C-FF0D FF1A-FF1B FF64"),
    (["se", "sep"], .ofText "85 2028-2029"),
    (["sp"], whiteSpaceRanges.diff (.ofText "A D 85 2028-2029")),
    (["st", "sterm"], sentenceEnd),
    (["up", "upper"], sentenceUpper)]

end Break

end Descent.Text
