import Descent.Text.Alphabetic
import Descent.Text.Property.CaseChange
import Descent.Text.Property.Listed
import Descent.Text.WhiteSpace

/-!
# Derived properties

Properties of characters that follow from their categories and from listed properties.
-/

namespace Descent.Text

namespace Property

def ascii : Ranges :=
  [(0x00, 0x7F)]

def any : Ranges :=
  Ranges.complement []

def assigned : Ranges :=
  Category.unassigned.ranges.complement

def lowercase : Ranges :=
  Category.lowercaseLetter.ranges.union otherLowercase

def uppercase : Ranges :=
  Category.uppercaseLetter.ranges.union otherUppercase

def cased : Ranges :=
  .unions [lowercase, uppercase, Category.titlecaseLetter.ranges]

/-- Alphabetic characters that are neither letters nor numbers made of letters. -/
def otherAlphabetic : Ranges :=
  alphabeticRanges.diff (Category.rangesOf (.letterNumber :: Category.letters))

def math : Ranges :=
  Category.mathSymbol.ranges.union otherMath

/-- Characters that form one grapheme with the one before them. -/
def graphemeExtend : Ranges :=
  (Category.rangesOf [.nonspacingMark, .enclosingMark]).union otherGraphemeExtend

def graphemeBase : Ranges :=
  ((Category.rangesOf (.lineSeparator :: .paragraphSeparator :: Category.others)).union
    graphemeExtend).complement

def defaultIgnorable : Ranges :=
  (Ranges.unions [Category.format.ranges, variationSelector, otherDefaultIgnorable]).diff
    (.unions [prependedConcatenationMark, whiteSpaceRanges, .ofText "FFF9-FFFB 13430-1343F"])

/-- What a language for patterns needs for itself is kept out of identifiers. -/
def outsidePatterns (ranges : Ranges) : Ranges :=
  ranges.diff (patternSyntax.union patternWhiteSpace)

def idStart : Ranges :=
  outsidePatterns
    ((Category.rangesOf (.letterNumber :: Category.letters)).union otherIdStart)

def idContinue : Ranges :=
  outsidePatterns
    (.unions [idStart,
      Category.rangesOf [.nonspacingMark, .spacingMark, .decimalNumber, .connectorPunctuation],
      otherIdContinue])

/-- Characters that compatibility composition would not leave where they may stand. -/
def recomposed : Ranges :=
  .ofText "37A 309B-309C FC5E-FC63 FDFA-FDFB FE70 FE72 FE74 FE76 FE78 FE7A FE7C FE7E"

/-- Characters that start an identifier and still do after normalization. -/
def xidStart : Ranges :=
  idStart.diff (recomposed.union (.ofText "E33 EB3 FF9E-FF9F"))

def xidContinue : Ranges :=
  idContinue.diff recomposed

/-- Mathematical symbols that may continue an identifier in some languages: those that may start
one, and raised and lowered digits and signs. -/
def idCompatMathContinue : Ranges :=
  idCompatMathStart.union (.ofText "B2-B3 B9 2070 2074-207E 2080-208E")

/-- Punctuation between letters, and between letters as well as digits. -/
def midLetter : Ranges :=
  .ofText "3A B7 387 55F 5F4 2027 FE13 FE55 FF1A"

def midLetterOrNumber : Ranges :=
  .ofText "2E 2018-2019 2024 FE52 FF07 FF0E"

def apostrophe : Ranges :=
  .ofText "27"

/-- Characters to skip when the letter case around them is looked at. -/
def caseIgnorable : Ranges :=
  .unions [Category.rangesOf [.nonspacingMark, .enclosingMark, .format, .modifierLetter,
    .modifierSymbol], midLetter, midLetterOrNumber, apostrophe]

/-- The properties that a character has or lacks, under the loose forms of their names. -/
def named : List (List String × Ranges) :=
  [(["ahex", "asciihexdigit"], asciiHexDigit),
    (["alpha", "alphabetic"], alphabeticRanges),
    (["any"], any),
    (["ascii"], ascii),
    (["assigned"], assigned),
    (["bidic", "bidicontrol"], bidiControl),
    (["bidim", "bidimirrored"], bidiMirrored),
    (["cased"], cased),
    (["ci", "caseignorable"], caseIgnorable),
    (["cwcf", "changeswhencasefolded"], changesWhenCasefolded),
    (["cwcm", "changeswhencasemapped"], changesWhenCasemapped),
    (["cwl", "changeswhenlowercased"], changesWhenLowercased),
    (["cwt", "changeswhentitlecased"], changesWhenTitlecased),
    (["cwu", "changeswhenuppercased"], changesWhenUppercased),
    (["dash"], dash),
    (["dep", "deprecated"], deprecated),
    (["di", "defaultignorablecodepoint"], defaultIgnorable),
    (["dia", "diacritic"], diacritic),
    (["ebase", "emojimodifierbase"], emojiModifierBase),
    (["ecomp", "emojicomponent"], emojiComponent),
    (["emod", "emojimodifier"], emojiModifier),
    (["emoji"], emoji),
    (["epres", "emojipresentation"], emojiPresentation),
    (["ext", "extender"], extender),
    (["extpict", "extendedpictographic"], extendedPictographic),
    (["grbase", "graphemebase"], graphemeBase),
    (["grext", "graphemeextend"], graphemeExtend),
    (["grlink", "graphemelink"], graphemeLink),
    (["hex", "hexdigit"], hexDigit),
    (["hyphen"], hyphen),
    (["idc", "idcontinue"], idContinue),
    (["idcompatmathcontinue"], idCompatMathContinue),
    (["idcompatmathstart"], idCompatMathStart),
    (["ideo", "ideographic"], ideographic),
    (["ids", "idstart"], idStart),
    (["idsb", "idsbinaryoperator"], idsBinaryOperator),
    (["idst", "idstrinaryoperator"], idsTrinaryOperator),
    (["idsu", "idsunaryoperator"], idsUnaryOperator),
    (["joinc", "joincontrol"], joinControl),
    (["loe", "logicalorderexception"], logicalOrderException),
    (["lower", "lowercase"], lowercase),
    (["math"], math),
    (["mcm", "modifiercombiningmark"], modifierCombiningMark),
    (["nchar", "noncharactercodepoint"], noncharacter),
    (["oalpha", "otheralphabetic"], otherAlphabetic),
    (["odi", "otherdefaultignorablecodepoint"], otherDefaultIgnorable),
    (["ogrext", "othergraphemeextend"], otherGraphemeExtend),
    (["oidc", "otheridcontinue"], otherIdContinue),
    (["oids", "otheridstart"], otherIdStart),
    (["olower", "otherlowercase"], otherLowercase),
    (["omath", "othermath"], otherMath),
    (["oupper", "otheruppercase"], otherUppercase),
    (["patsyn", "patternsyntax"], patternSyntax),
    (["patws", "patternwhitespace"], patternWhiteSpace),
    (["pcm", "prependedconcatenationmark"], prependedConcatenationMark),
    (["qmark", "quotationmark"], quotationMark),
    (["radical"], radical),
    (["ri", "regionalindicator"], regionalIndicator),
    (["sd", "softdotted"], softDotted),
    (["sterm", "sentenceterminal"], sentenceTerminal),
    (["term", "terminalpunctuation"], terminalPunctuation),
    (["uideo", "unifiedideograph"], unifiedIdeograph),
    (["upper", "uppercase"], uppercase),
    (["vs", "variationselector"], variationSelector),
    (["wspace", "whitespace", "space"], whiteSpaceRanges),
    (["xidc", "xidcontinue"], xidContinue),
    (["xids", "xidstart"], xidStart)]

end Property

end Descent.Text
