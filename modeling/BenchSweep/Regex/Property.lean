import BenchSweep.Regex.Class
import BenchSweep.Text.Age
import BenchSweep.Text.Boundary
import BenchSweep.Text.Pieces
import BenchSweep.Text.Script

/-! Classes of characters by the name of a property: a general category, a script, a version of the
standard, a class of boundaries, or a property that a character has or has not. Case, spaces, hyphens,
underscores and characters outside of ASCII do not count in names, nor does `is` at the very start. -/
set_option autoImplicit false

namespace BenchSweep.Regex

open Text

/-! ## Names -/

/-- A name without what does not count. What would be left of `isc` is the name of a category, so it
keeps its start. -/
def normalName (name : List Char) : String :=
  let (marked, rest) := match name with
    | i :: s :: rest => if i.toLower = 'i' && s.toLower = 's' then (true, rest) else (false, name)
    | _ => (false, name)
  let letters := (rest.filter fun c => c.toNat < 0x80 && c ≠ ' ' && c ≠ '_' && c ≠ '-').map Char.toLower
  if marked && letters = ['c'] then "isc" else String.ofList letters

/-- The set that has the name in a list of sets with their names. -/
def byName (sets : List (List String × CodePoints)) (name : String) : Option CharClass :=
  (sets.find? fun s => s.1.any fun n => normalName n.toList = name).map (·.2)

/-! ## Properties with values -/

open GeneralCategory in
/-- The general categories and their groups. -/
def categories : List (List String × CodePoints) := [
  (["Any"], .scalars), (["Assigned"], assigned), (["ASCII"], CharClass.ascii),
  (["Lu", "Uppercase_Letter"], uppercaseLetter), (["Ll", "Lowercase_Letter"], lowercaseLetter),
  (["Lt", "Titlecase_Letter"], titlecaseLetter), (["Lm", "Modifier_Letter"], modifierLetter),
  (["Lo", "Other_Letter"], otherLetter), (["L", "Letter"], letters),
  (["LC", "Cased_Letter"], .unions [uppercaseLetter, lowercaseLetter, titlecaseLetter]),
  (["Mn", "Nonspacing_Mark"], nonspacingMark), (["Mc", "Spacing_Mark"], spacingMark),
  (["Me", "Enclosing_Mark"], enclosingMark), (["M", "Mark", "Combining_Mark"], marks),
  (["Nd", "Decimal_Number", "digit"], decimalNumber), (["Nl", "Letter_Number"], letterNumber),
  (["No", "Other_Number"], otherNumber), (["N", "Number"], numbers),
  (["Pc", "Connector_Punctuation"], connectorPunctuation),
  (["Pd", "Dash_Punctuation"], dashPunctuation), (["Ps", "Open_Punctuation"], openPunctuation),
  (["Pe", "Close_Punctuation"], closePunctuation),
  (["Pi", "Initial_Punctuation"], initialPunctuation),
  (["Pf", "Final_Punctuation"], finalPunctuation), (["Po", "Other_Punctuation"], otherPunctuation),
  (["P", "Punctuation", "punct"], punctuation), (["Sm", "Math_Symbol"], mathSymbol),
  (["Sc", "Currency_Symbol"], currencySymbol), (["Sk", "Modifier_Symbol"], modifierSymbol),
  (["So", "Other_Symbol"], otherSymbol), (["S", "Symbol"], symbols),
  (["Zs", "Space_Separator"], spaceSeparator), (["Zl", "Line_Separator"], lineSeparator),
  (["Zp", "Paragraph_Separator"], paragraphSeparator), (["Z", "Separator"], separators),
  (["Cc", "Control", "cntrl"], control), (["Cf", "Format"], format),
  (["Co", "Private_Use"], privateUse), (["Cn", "Unassigned"], unassigned), (["C", "Other"], others)]

def commonNames : List String := ["Zyyy", "Common"]

def inheritedNames : List String := ["Zinh", "Inherited", "Qaai"]

/-- The characters of a script. -/
def scripts : List (List String × CodePoints) :=
  (commonNames, Script.common) :: (inheritedNames, Script.inherited) ::
    Script.all.map fun s => (s.names, s.own)

/-- The characters that are used with a script; those that several scripts use together count for
each of these. -/
def scriptExtensions : List (List String × CodePoints) :=
  (commonNames, Script.common \ Script.sharedByAny) ::
    (inheritedNames, Script.inherited \ Script.sharedByAny) ::
    Script.all.map fun s => (s.names, s.own ∪ s.shared)

def Age.names (a : Age) : List String := [s!"{a.major}.{a.minor}", s!"V{a.major}_{a.minor}"]

/-- The characters that a version assigns and those of the versions before it. -/
def age? (name : String) : Option CharClass :=
  let (older, newer) := Age.all.span fun a => !(Age.names a).any fun n => normalName n.toList = name
  newer.head?.map fun a => .unions ((a :: older).map (·.added))

/-- The class of a property with a value. -/
def valued? (property value : String) : Option CharClass :=
  match property with
  | "gc" | "generalcategory" => byName categories value
  | "sc" | "script" => byName scripts value
  | "scx" | "scriptextensions" => byName scriptExtensions value
  | "age" => age? value
  | "gcb" | "graphemeclusterbreak" => byName Boundary.Grapheme.classes value
  | "wb" | "wordbreak" => byName Boundary.Word.classes value
  | "sb" | "sentencebreak" => byName Boundary.Sentence.classes value
  | _ => none

/-! ## Properties that a character has or has not -/

open BinaryProperty in
def binaryProperties : List (List String × CodePoints) := [
  (["AHex", "ASCII_Hex_Digit"], asciiHexDigit), (["Alpha", "Alphabetic"], alphabetic),
  (["Bidi_C", "Bidi_Control"], bidiControl), (["CI", "Case_Ignorable"], caseIgnorable),
  (["Cased"], cased), (["CWCF", "Changes_When_Casefolded"], changesWhenCasefolded),
  (["CWCM", "Changes_When_Casemapped"], changesWhenCasemapped),
  (["CWL", "Changes_When_Lowercased"], changesWhenLowercased),
  (["CWT", "Changes_When_Titlecased"], changesWhenTitlecased),
  (["CWU", "Changes_When_Uppercased"], changesWhenUppercased), (["Dash"], dash),
  (["DI", "Default_Ignorable_Code_Point"], defaultIgnorable), (["Dep", "Deprecated"], deprecated),
  (["Dia", "Diacritic"], diacritic), (["Emoji"], emoji), (["EComp", "Emoji_Component"], emojiComponent),
  (["EMod", "Emoji_Modifier"], emojiModifier), (["EBase", "Emoji_Modifier_Base"], emojiModifierBase),
  (["EPres", "Emoji_Presentation"], emojiPresentation),
  (["ExtPict", "Extended_Pictographic"], extendedPictographic), (["Ext", "Extender"], extender),
  (["Gr_Base", "Grapheme_Base"], graphemeBase), (["Gr_Ext", "Grapheme_Extend"], graphemeExtend),
  (["Gr_Link", "Grapheme_Link"], graphemeLink), (["Hex", "Hex_Digit"], hexDigit),
  (["Hyphen"], hyphen), (["IDSB", "IDS_Binary_Operator"], idsBinaryOperator),
  (["IDST", "IDS_Trinary_Operator"], idsTrinaryOperator),
  (["IDSU", "IDS_Unary_Operator"], idsUnaryOperator),
  (["ID_Compat_Math_Continue"], idCompatMathContinue),
  (["ID_Compat_Math_Start"], idCompatMathStart), (["IDC", "ID_Continue"], idContinue),
  (["IDS", "ID_Start"], idStart), (["Ideo", "Ideographic"], ideographic),
  (["Join_C", "Join_Control"], joinControl),
  (["LOE", "Logical_Order_Exception"], logicalOrderException), (["Lower", "Lowercase"], lowercase),
  (["Math"], math), (["MCM", "Modifier_Combining_Mark"], modifierCombiningMark),
  (["NChar", "Noncharacter_Code_Point"], noncharacter), (["OAlpha", "Other_Alphabetic"], otherAlphabetic),
  (["ODI", "Other_Default_Ignorable_Code_Point"], otherDefaultIgnorable),
  (["OGr_Ext", "Other_Grapheme_Extend"], otherGraphemeExtend),
  (["OIDC", "Other_ID_Continue"], otherIdContinue), (["OIDS", "Other_ID_Start"], otherIdStart),
  (["OLower", "Other_Lowercase"], otherLowercase), (["OMath", "Other_Math"], otherMath),
  (["OUpper", "Other_Uppercase"], otherUppercase), (["Pat_Syn", "Pattern_Syntax"], patternSyntax),
  (["Pat_WS", "Pattern_White_Space"], patternWhiteSpace),
  (["PCM", "Prepended_Concatenation_Mark"], prependedConcatenationMark),
  (["QMark", "Quotation_Mark"], quotationMark), (["Radical"], radical),
  (["RI", "Regional_Indicator"], regionalIndicator), (["STerm", "Sentence_Terminal"], sentenceTerminal),
  (["SD", "Soft_Dotted"], softDotted), (["Term", "Terminal_Punctuation"], terminalPunctuation),
  (["UIdeo", "Unified_Ideograph"], unifiedIdeograph), (["Upper", "Uppercase"], uppercase),
  (["VS", "Variation_Selector"], variationSelector), (["WSpace", "White_Space", "space"], whiteSpace),
  (["XIDC", "XID_Continue"], xidContinue), (["XIDS", "XID_Start"], xidStart)]

/-! ## Escapes -/

/-- The class that a name on its own stands for. -/
def single? (name : String) : Option CharClass :=
  byName binaryProperties name <|> byName categories name <|> byName scripts name

/-- The class that the text between the braces names, and whether its complement is meant. -/
def propertyClass? (text : String) : Option (CharClass × Bool) :=
  let s := text.toList
  match pieces "!=".toList s with
  | name :: value :: more =>
    (valued? (normalName name) (normalName ("!=".toList.intercalate (value :: more)))).map (·, true)
  | _ =>
    match splitOnce ':' s <|> splitOnce '=' s with
    | some (name, value) => (valued? (normalName name) (normalName value)).map (·, false)
    | none => (single? (normalName s)).map (·, false)

end BenchSweep.Regex
