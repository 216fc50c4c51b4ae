import BenchSweep.Decimal.Notation

/-! TOML documents of one level of tables as they are written. A text stands between the plainest
quotes that need no escapes; a key stands bare where it can. -/
set_option autoImplicit false

namespace BenchSweep.Toml

/-! ## Texts -/

/-- Whether a character can stand in a document only behind a backslash. Tabs and line feeds can
stand as they are. -/
def needsEscape (c : Char) : Bool := (c < ' ' && c ≠ '\t' && c ≠ '\n') || c == '\x7f'

/-- The length of the longest run of `mark`, `run` being how many stand right before the text. -/
def longestRun (mark : Char) (run : Nat) : List Char → Nat
  | [] => run
  | c :: rest =>
    if c = mark then longestRun mark (run + 1) rest else max run (longestRun mark 0 rest)

/-- What decides how a text is quoted. -/
structure TextShape where
  escapes : Bool
  backslash : Bool
  newline : Bool
  singleQuotes : Nat
  doubleQuotes : Nat

def TextShape.of (s : List Char) : TextShape where
  escapes := s.any needsEscape
  backslash := s.contains '\\'
  newline := s.contains '\n'
  singleQuotes := longestRun '\'' 0 s
  doubleQuotes := longestRun '"' 0 s

/-- The four digits of a control character. -/
def fourDigits (c : Char) : List Char :=
  let ds := (Nat.toDigits 16 c.toNat).map Char.toUpper
  List.replicate (4 - ds.length) '0' ++ ds

/-- A character other than a quote or a line feed between double quotes. -/
def escaped (c : Char) : List Char :=
  if c = '\\' then ['\\', '\\']
  else if c = '\t' then ['\\', 't']
  else if c = '\r' then ['\\', 'r']
  else if c = '\x08' then ['\\', 'b']
  else if c = '\x0c' then ['\\', 'f']
  else if needsEscape c then '\\' :: 'u' :: fourDigits c
  else [c]

/-- The text on one line between double quotes. -/
def basic (s : List Char) : List Char :=
  '"' :: s.flatMap (fun c =>
    if c = '"' then ['\\', '"'] else if c = '\n' then ['\\', 'n'] else escaped c) ++ ['"']

/-- The text between triple double quotes, of which every third in a row takes a backslash. -/
def tripleBody (run : Nat) : List Char → List Char
  | [] => []
  | c :: rest =>
    if c = '"' then
      if run = 2 then '\\' :: '"' :: tripleBody 0 rest else '"' :: tripleBody (run + 1) rest
    else if c = '\n' then '\n' :: tripleBody 0 rest
    else escaped c ++ tripleBody 0 rest

/-- Between triple quotes a text with line feeds starts on a line of its own. -/
def triple (mark : Char) (newline : Bool) (body : List Char) : List Char :=
  let quotes := [mark, mark, mark]
  quotes ++ (if newline then ['\n'] else []) ++ body ++ quotes

/-- A text as a value. -/
def writeText (s : List Char) : List Char :=
  let shape := TextShape.of s
  if !shape.escapes && !shape.backslash && shape.doubleQuotes = 0 && !shape.newline then basic s
  else if !shape.escapes && shape.singleQuotes = 0 && !shape.newline then '\'' :: s ++ ['\'']
  else if !shape.escapes && !shape.backslash && shape.doubleQuotes ≤ 2 then
    triple '"' shape.newline (tripleBody 0 s)
  else if !shape.escapes && shape.singleQuotes ≤ 2 then triple '\'' shape.newline s
  else if shape.newline then triple '"' true (tripleBody 0 s)
  else basic s

/-! ## Keys -/

/-- Whether a key can stand without quotes if all its characters are like this. -/
def isBare (c : Char) : Bool := c.isAlphanum || c == '_' || c == '-'

def writeKey (s : List Char) : List Char :=
  let shape := TextShape.of s
  let escapes := shape.escapes || shape.newline
  if !s.isEmpty && s.all isBare then s
  else if !escapes && !shape.backslash && shape.doubleQuotes = 0 then basic s
  else if !escapes && shape.singleQuotes = 0 then '\'' :: s ++ ['\'']
  else basic s

/-! ## Values -/

inductive Scalar where
  | text (value : String)
  | integer (value : Int)
  | float (value : Binary64)
  | bool (value : Bool)

/-- All digits, without a power of ten, and a point in every finite number. -/
def floatNotation : Decimal.FloatStyle := ⟨"nan", none⟩

/-- An integer must fit into 64 bits. -/
def Scalar.write : Scalar → Option (List Char)
  | .text s => some (writeText s.toList)
  | .integer n =>
    if -Nat.pow 2 63 ≤ n ∧ n < Nat.pow 2 63 then some (Decimal.integer n) else none
  | .float x => some (floatNotation.write x).toList
  | .bool b => some (if b then "true" else "false").toList

/-! ## Documents -/

abbrev Pair := String × Scalar

def writePair : Pair → Option (List Char)
  | (key, value) => value.write.map fun v => writeKey key.toList ++ [' ', '=', ' '] ++ v ++ ['\n']

def writePairs (pairs : List Pair) : Option (List Char) := (pairs.mapM writePair).map List.flatten

/-- A table under its header. -/
def writeTable (name : String) (pairs : List Pair) : Option (List Char) :=
  (writePairs pairs).map fun body => '[' :: writeKey name.toList ++ [']', '\n'] ++ body

/-- The pairs of the top level and the tables. -/
structure Sheet where
  pairs : List Pair
  tables : List (String × List Pair)

/-- The blocks with an empty line between each two. -/
def writeBlocks (blocks : List (List Char)) : String :=
  String.ofList (['\n'].intercalate (blocks.filter (!·.isEmpty)))

def Sheet.write (s : Sheet) : Option String := do
  let top ← writePairs s.pairs
  let tables ← s.tables.mapM fun (name, pairs) => writeTable name pairs
  return writeBlocks (top :: tables)

end BenchSweep.Toml
