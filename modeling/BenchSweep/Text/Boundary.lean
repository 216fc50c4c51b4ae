import BenchSweep.Text.BinaryProperty
import BenchSweep.Text.Script

/-! Classes of characters for finding where a character, a word or a sentence ends, in version 16 of
the standard. -/
set_option autoImplicit false

namespace BenchSweep.Text.Boundary

open GeneralCategory BinaryProperty

/-! ## Characters as users see them -/

namespace Grapheme

/-- Hangul letters that begin a syllable. -/
def leadingJamo : CodePoints := .ofText "1100-115F A960-A97C"

/-- Hangul vowels, and vowels that join like them. -/
def vowelJamo : CodePoints := .ofText "1160-11A7 D7B0-D7C6 16D63 16D67-16D6A"

/-- Hangul letters that end a syllable. -/
def trailingJamo : CodePoints := .ofText "11A8-11FF D7CB-D7FB"

/-- Hangul syllables. -/
def syllables : CodePoints :=
  .range 0xAC00 0xD7A3

/-- Hangul syllables without a final letter: every 28th. -/
def openSyllables : CodePoints :=
  .ofAscending ((List.range 399).map fun i => 0xAC00 + 28 * i)

/-- Characters that join the one before them. -/
def extend : CodePoints :=
  graphemeExtend ∪ emojiModifier

/-- Characters that join the one behind them. -/
def prepend : CodePoints := .ofText
  "600-605 6DD 70F 890-891 8E2 D4E 110BD 110CD 111C2-111C3 113D1 1193F 11941 11A3A 11A84-11A89
   11D46 11F02"

/-- Spacing marks that stand apart. -/
def spacingApart : CodePoints := .ofText
  "102B-102C 1038 1062-1064 1067-106D 1083 1087-108C 108F 109A-109C 1A61 1A63-1A64 AA7B AA7D
   11720-11721"

/-- Spacing marks that join the one before them. -/
def spacing : CodePoints :=
  ((spacingMark \ extend) ∪ .ofText "E33 EB3") \ spacingApart

/-- Controls, which join nothing. -/
def controls : CodePoints :=
  .unions [lineSeparator, paragraphSeparator, control, format, unassigned ∩ defaultIgnorable] \
    .unions [extend, prependedConcatenationMark, .ofText "A D 200D"]

/-- The classes by name. -/
def classes : List (List String × CodePoints) := [
  (["CR"], .single '\r'),
  (["LF"], .single '\n'),
  (["CN", "Control"], controls),
  (["EX", "Extend"], extend),
  (["ZWJ"], .range 0x200D 0x200D),
  (["RI", "Regional_Indicator"], regionalIndicator),
  (["PP", "Prepend"], prepend),
  (["SM", "SpacingMark"], spacing),
  (["L"], leadingJamo),
  (["V"], vowelJamo),
  (["T"], trailingJamo),
  (["LV"], openSyllables),
  (["LVT"], syllables \ openSyllables)]

end Grapheme

/-! ## Words -/

namespace Word

/-- Characters that belong to the word of the one before them. -/
def extend : CodePoints :=
  .unions [graphemeExtend, spacingMark, emojiModifier]

/-- Format characters within words. -/
def formats : CodePoints :=
  format \ .unions [extend, prependedConcatenationMark, .ofText "200B 200D"]

/-- Katakana, and the signs used with it. -/
def katakana : CodePoints := .ofText
  "3031-3035 309B-309C 30A0-30FA 30FC-30FF 31F0-31FF 32D0-32FE 3300-3357 FF66-FF9D 1AFF0-1AFF3
   1AFF5-1AFFB 1AFFD-1AFFE 1B000 1B120-1B122 1B155 1B164-1B167"

/-- Hebrew letters. -/
def hebrewLetter : CodePoints := .ofText
  "5D0-5EA 5EF-5F2 FB1D FB1F-FB28 FB2A-FB36 FB38-FB3C FB3E FB40-FB41 FB43-FB44 FB46-FB4F"

/-- Letters of scripts that write words without a space between them. -/
def complexContext : CodePoints := .ofText
  "E01-E30 E32-E33 E40-E46 E81-E82 E84 E86-E8A E8C-EA3 EA5 EA7-EB0 EB2-EB3 EBD EC0-EC4 EC6
   EDC-EDF 1000-102A 103F 1050-1055 105A-105D 1061 1065-1066 106E-1070 1075-1081 108E 1780-17B3
   17D7 17DC 1950-196D 1970-1974 1980-19AB 19B0-19C9 1A20-1A54 1AA7 A9E0-A9E4 A9E6-A9EF A9FA-A9FE
   AA60-AA76 AA7A AA7E-AAAF AAB1 AAB5-AAB6 AAB9-AABD AAC0 AAC2 AADB-AADD 11700-1171A 11740-11746"

/-- Signs that count as letters. -/
def letterLike : CodePoints := .ofText
  "2C2-2C5 2D2-2D7 2DE-2DF 2E5-2EB 2ED 2EF-2FF 55A-55C 55E 58A 5F3 70F A708-A716 A720-A721
   A789-A78A AB5B"

/-- Letters of words. -/
def letter : CodePoints :=
  (alphabetic \ .unions [ideographic, katakana, hebrewLetter, Script.hiragana.own, complexContext,
    extend, decimalNumber]) ∪ letterLike

/-- Digits of numbers, and the signs that stand before them. -/
def numeric : CodePoints :=
  .unions [decimalNumber, .ofText "66B", prependedConcatenationMark \ .ofText "70F"]

/-- The classes by name. -/
def classes : List (List String × CodePoints) := [
  (["CR"], .single '\r'),
  (["LF"], .single '\n'),
  (["NL", "Newline"], .ofText "B-C 85 2028-2029"),
  (["Extend"], extend),
  (["ZWJ"], .range 0x200D 0x200D),
  (["RI", "Regional_Indicator"], regionalIndicator),
  (["FO", "Format"], formats),
  (["KA", "Katakana"], katakana),
  (["HL", "Hebrew_Letter"], hebrewLetter),
  (["LE", "ALetter"], letter),
  (["SQ", "Single_Quote"], .range 0x27 0x27),
  (["DQ", "Double_Quote"], .range 0x22 0x22),
  (["MB", "MidNumLet"], .ofText "2E 2018-2019 2024 FE52 FF07 FF0E"),
  (["ML", "MidLetter"], .ofText "3A B7 387 55F 5F4 2027 FE13 FE55 FF1A"),
  (["MN", "MidNum"], .ofText "2C 3B 37E 589 60C-60D 66C 7F8 2044 FE10 FE14 FE50 FE54 FF0C FF1B"),
  (["NU", "Numeric"], numeric),
  (["EX", "ExtendNumLet"], .ofText "5F 202F 203F-2040 2054 FE33-FE34 FE4D-FE4F FF3F"),
  (["WSegSpace"], .ofText "20 1680 2000-2006 2008-200A 205F 3000")]

end Word

/-! ## Sentences -/

namespace Sentence

/-- Characters that belong to the one before them. -/
def extend : CodePoints :=
  .unions [graphemeExtend, spacingMark, joinControl]

/-- Format characters within sentences. -/
def formats : CodePoints :=
  format \ (extend ∪ prependedConcatenationMark)

/-- Small letters, those of Georgian apart. -/
def lower : CodePoints :=
  lowercase \ (extend ∪ .ofText "10D0-10FA 10FD-10FF")

/-- Capitals, those of Georgian apart. -/
def upper : CodePoints :=
  (uppercase ∪ titlecaseLetter) \ .ofText "1C90-1CBA 1CBD-1CBF"

/-- Letters that are neither small nor capital. -/
def otherLetters : CodePoints :=
  (alphabetic \ .unions [lower, upper, extend]) ∪ .ofText "5F3 70F"

/-- Digits of numbers, and the signs that stand before them. -/
def numeric : CodePoints :=
  .unions [decimalNumber, .ofText "66B-66C", prependedConcatenationMark \ .ofText "70F"]

/-- Full stops, which need not end a sentence. -/
def fullStop : CodePoints :=
  .ofText "2E 2024 FE52 FF0E"

/-- Brackets and quotation marks. -/
def closing : CodePoints :=
  .unions [openPunctuation, closePunctuation, initialPunctuation, finalPunctuation,
    .ofText "22 27 275B-2760 2E00-2E01 2E06-2E08 2E0B 1F676-1F678"]

/-- Spaces that end no paragraph. -/
def spaces : CodePoints :=
  whiteSpace \ .ofText "A D 85 2028-2029"

/-- Signs behind which a sentence goes on. -/
def continuing : CodePoints := .ofText
  "2C-2D 3A 55D 60C-60D 7F8 1802 1808 2013-2014 3001 FE10-FE11 FE13 FE31-FE32 FE50-FE51 FE55 FE58
   FE63 FF0C-FF0D FF1A FF64"

/-- The classes by name. -/
def classes : List (List String × CodePoints) := [
  (["CR"], .single '\r'),
  (["LF"], .single '\n'),
  (["SE", "Sep"], .ofText "85 2028-2029"),
  (["EX", "Extend"], extend),
  (["FO", "Format"], formats),
  (["SP", "Sp"], spaces),
  (["LO", "Lower"], lower),
  (["UP", "Upper"], upper),
  (["LE", "OLetter"], otherLetters),
  (["NU", "Numeric"], numeric),
  (["AT", "ATerm"], fullStop),
  (["SC", "SContinue"], continuing),
  (["ST", "STerm"], sentenceTerminal \ fullStop),
  (["CL", "Close"], closing)]

end Sentence

end BenchSweep.Text.Boundary
