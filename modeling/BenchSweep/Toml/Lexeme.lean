import BenchSweep.Decimal.Reading
import BenchSweep.Toml.Value

/-! The words of a TOML document: keys, strings in their four forms, numbers, dates and times. Each
reader takes a word from the start of the text and gives the rest. -/
set_option autoImplicit false

namespace BenchSweep.Toml

def isSpace (c : Char) : Bool := c = ' ' || c = '\t'

/-- Characters that may stand unescaped in comments and strings, quotes and backslashes apart. -/
def isPlain (c : Char) : Bool := c = '\t' || (0x20 ≤ c.toNat && c.toNat ≠ 0x7F)

def hexValue? (c : Char) : Option Nat :=
  if '0' ≤ c ∧ c ≤ '9' then some (c.toNat - 48)
  else if 'a' ≤ c ∧ c ≤ 'f' then some (c.toNat - 87)
  else if 'A' ≤ c ∧ c ≤ 'F' then some (c.toNat - 55)
  else none

/-- The character with this number in base 16. -/
def scalar? (hex : List Char) : Option Char := do
  let n ← hex.foldlM (fun n c => (hexValue? c).map (n * 16 + ·)) 0
  if n.isValidChar then some (Char.ofNat n) else none

/-- The character that a backslash and one letter stand for. -/
def escaped? : Char → Option Char
  | 'b' => some '\x08'
  | 't' => some '\t'
  | 'n' => some '\n'
  | 'f' => some '\x0c'
  | 'r' => some '\r'
  | '"' => some '"'
  | '\\' => some '\\'
  | _ => none

/-! ## Strings -/

def consChar {β : Type} (c : Char) (x : Option (List Char × β)) : Option (List Char × β) :=
  x.map fun (s, rest) => (c :: s, rest)

/-- The inside of a string between double quotes and what follows the closing quote. -/
def basicBody : List Char → Option (List Char × List Char)
  | '"' :: rest => some ([], rest)
  | '\\' :: 'u' :: a :: b :: c :: d :: rest =>
    (scalar? [a, b, c, d]).bind fun x => consChar x (basicBody rest)
  | '\\' :: 'U' :: a :: b :: c :: d :: e :: f :: g :: h :: rest =>
    (scalar? [a, b, c, d, e, f, g, h]).bind fun x => consChar x (basicBody rest)
  | '\\' :: c :: rest => (escaped? c).bind fun x => consChar x (basicBody rest)
  | c :: rest => if isPlain c && c ≠ '\\' then consChar c (basicBody rest) else none
  | [] => none

/-- The inside of a string between single quotes. -/
def literalBody : List Char → Option (List Char × List Char)
  | '\'' :: rest => some ([], rest)
  | c :: rest => if isPlain c then consChar c (literalBody rest) else none
  | [] => none

/-- Whether only spaces stand before the end of the line. -/
def endsLine : List Char → Bool
  | '\n' :: _ => true
  | '\r' :: '\n' :: _ => true
  | c :: rest => isSpace c && endsLine rest
  | [] => false

/-- The inside of a string between three double quotes. A backslash at the end of a line takes away
all blanks up to the next character, which `folding` remembers. Up to two quotes may stand before
the closing ones. -/
def multiBasicBody (folding : Bool) : List Char → Option (List Char × List Char)
  | '\r' :: '\n' :: rest =>
    if folding then multiBasicBody true rest else consChar '\n' (multiBasicBody false rest)
  | '\n' :: rest =>
    if folding then multiBasicBody true rest else consChar '\n' (multiBasicBody false rest)
  | '"' :: '"' :: '"' :: '"' :: '"' :: rest => some (['"', '"'], rest)
  | '"' :: '"' :: '"' :: '"' :: rest => some (['"'], rest)
  | '"' :: '"' :: '"' :: rest => some ([], rest)
  | '\\' :: 'u' :: a :: b :: c :: d :: rest =>
    (scalar? [a, b, c, d]).bind fun x => consChar x (multiBasicBody false rest)
  | '\\' :: 'U' :: a :: b :: c :: d :: e :: f :: g :: h :: rest =>
    (scalar? [a, b, c, d, e, f, g, h]).bind fun x => consChar x (multiBasicBody false rest)
  | '\\' :: c :: rest =>
    match escaped? c with
    | some x => consChar x (multiBasicBody false rest)
    | none => if endsLine (c :: rest) then multiBasicBody true (c :: rest) else none
  | c :: rest =>
    if folding && isSpace c then multiBasicBody true rest
    else if isPlain c && c ≠ '\\' then consChar c (multiBasicBody false rest)
    else none
  | [] => none

/-- The inside of a string between three single quotes. -/
def multiLiteralBody : List Char → Option (List Char × List Char)
  | '\r' :: '\n' :: rest => consChar '\n' (multiLiteralBody rest)
  | '\n' :: rest => consChar '\n' (multiLiteralBody rest)
  | '\'' :: '\'' :: '\'' :: '\'' :: '\'' :: rest => some (['\'', '\''], rest)
  | '\'' :: '\'' :: '\'' :: '\'' :: rest => some (['\''], rest)
  | '\'' :: '\'' :: '\'' :: rest => some ([], rest)
  | c :: rest => if isPlain c then consChar c (multiLiteralBody rest) else none
  | [] => none

/-- Without a line end at the start. -/
def skipNewline : List Char → List Char
  | '\n' :: rest => rest
  | '\r' :: '\n' :: rest => rest
  | s => s

/-- A string in any of its forms. -/
def string? : List Char → Option (List Char × List Char)
  | '"' :: '"' :: '"' :: rest => multiBasicBody false (skipNewline rest)
  | '"' :: rest => basicBody rest
  | '\'' :: '\'' :: '\'' :: rest => multiLiteralBody (skipNewline rest)
  | '\'' :: rest => literalBody rest
  | _ => none

/-! ## Keys -/

def isBareKeyChar (c : Char) : Bool := c.isAlphanum || c = '-' || c = '_'

/-- A key without dots: bare, or a string on one line. -/
def simpleKey? : List Char → Option (String × List Char)
  | '"' :: rest => (basicBody rest).map fun (s, rest) => (String.ofList s, rest)
  | '\'' :: rest => (literalBody rest).map fun (s, rest) => (String.ofList s, rest)
  | s =>
    let word := s.takeWhile isBareKeyChar
    if word.isEmpty then none else some (String.ofList word, s.dropWhile isBareKeyChar)

def skipSpaces (s : List Char) : List Char := s.dropWhile isSpace

/-- Keys joined by dots, with spaces around each, at most `fuel` of them. -/
def dottedKey? : Nat → List Char → Option (List String × List Char)
  | 0, _ => none
  | fuel + 1, s => do
    let (key, rest) ← simpleKey? (skipSpaces s)
    match skipSpaces rest with
    | '.' :: rest =>
      let (keys, rest) ← dottedKey? fuel rest
      return (key :: keys, rest)
    | rest => return ([key], rest)

/-- Containers and dotted keys stay below this depth. -/
def depthLimit : Nat := 80

/-- A key as the path to its table and its last part. -/
def keyPath? (s : List Char) : Option (List String × String × List Char) := do
  let (keys, rest) ← dottedKey? (depthLimit - 1) s
  let last ← keys.getLast?
  return (keys.dropLast, last, rest)

/-! ## Numbers -/

/-- Digits with single underscores between them, without the underscores. -/
def digitRun? (isDigit : Char → Bool) : List Char → Option (List Char)
  | [] => none
  | [c] => if isDigit c then some [c] else none
  | c :: '_' :: rest => if isDigit c then (digitRun? isDigit rest).map (c :: ·) else none
  | c :: rest => if isDigit c then (digitRun? isDigit rest).map (c :: ·) else none

/-- A whole number in base ten, without zeros before it. -/
def decimalRun? (s : List Char) : Option (List Char) :=
  match digitRun? Decimal.isDigit s with
  | some ('0' :: _ :: _) => none
  | r => r

/-- The sign of a number and the rest. -/
def takeSign : List Char → List Char × List Char
  | '+' :: rest => (['+'], rest)
  | '-' :: rest => (['-'], rest)
  | rest => ([], rest)

def radixRun? (base : Nat) (s : List Char) : Option Value := do
  let ds ← digitRun? (fun c => (hexValue? c).any (· < base)) s
  let n := ds.foldl (fun n c => n * base + (hexValue? c).getD 0) 0
  if n < Nat.pow 2 63 then some (.integer (Int64.ofInt n)) else none

/-- An integer in base 2, 8, 10 or 16. -/
def integer? : List Char → Option Value
  | '0' :: 'x' :: rest => radixRun? 16 rest
  | '0' :: 'o' :: rest => radixRun? 8 rest
  | '0' :: 'b' :: rest => radixRun? 2 rest
  | s => do
    let (sign, rest) := takeSign s
    let ds ← decimalRun? rest
    match Decimal.readInt64 (sign ++ ds) with
    | .ok n => some (.integer (Int64.ofInt n))
    | .error _ => none

/-- The power of ten of a float, with its mark, or nothing. -/
def power? : List Char → Option (List Char)
  | [] => some []
  | c :: rest =>
    if c = 'e' ∨ c = 'E' then
      let (sign, ds) := takeSign rest
      (digitRun? Decimal.isDigit ds).map fun ds => 'e' :: sign ++ ds
    else none

/-- The fraction and the power of ten of a float, one of them at least. -/
def fractionAndPower? : List Char → Option (List Char)
  | '.' :: rest => do
    let isMark := fun c => c = 'e' || c = 'E'
    let ds ← digitRun? Decimal.isDigit (rest.takeWhile (!isMark ·))
    let power ← power? (rest.dropWhile (!isMark ·))
    return '.' :: ds ++ power
  | [] => none
  | rest => power? rest

/-- A float in digits. One that is too great is refused. -/
def digitsFloat? (s : List Char) : Option Value := do
  let (sign, rest) := takeSign s
  let isInner := fun c => c = '_' || Decimal.isDigit c
  let whole ← decimalRun? (rest.takeWhile isInner)
  let tail ← fractionAndPower? (rest.dropWhile isInner)
  match Decimal.readFloat (sign ++ whole ++ tail) with
  | .ok x => if x = Binary64.ofMagnitude false Binary64.infinity then none else some (.float x)
  | .error _ => none

/-- The numbers that have names. -/
def namedFloat? (s : List Char) : Option Value :=
  let (sign, name) := takeSign s
  let negative := sign = ['-']
  if name = "inf".toList then some (.float (Binary64.ofMagnitude negative Binary64.infinity))
  else if name = "nan".toList then some (.float (Binary64.nan negative))
  else none

/-! ## Dates and times -/

/-- Two digits that denote a number from `low` to `high`. -/
def twoDigits? (low high : Nat) (a b : Char) : Option Nat := do
  let n := (← Decimal.digit? a) * 10 + (← Decimal.digit? b)
  if low ≤ n && n ≤ high then some n else none

def daysIn (year month : Nat) : Nat :=
  if month = 2 then
    if year % 4 = 0 && (year % 100 ≠ 0 || year % 400 = 0) then 29 else 28
  else if month = 4 || month = 6 || month = 9 || month = 11 then 30
  else 31

/-- A day of the calendar at the start of a word. -/
def date? : List Char → Option (List Char × List Char)
  | a :: b :: c :: d :: '-' :: e :: f :: '-' :: g :: h :: rest => do
    let year := (← twoDigits? 0 99 a b) * 100 + (← twoDigits? 0 99 c d)
    let month ← twoDigits? 1 12 e f
    let _ ← twoDigits? 1 (daysIn year month) g h
    return ([a, b, c, d, '-', e, f, '-', g, h], rest)
  | _ => none

/-- The fraction of a second: nine digits count, zeros at their end are not shown. -/
def secondFraction? : List Char → Option (List Char × List Char)
  | '.' :: rest =>
    let ds := rest.takeWhile Decimal.isDigit
    if ds.isEmpty then none
    else
      let shown := ((ds.take 9).reverse.dropWhile (· = '0')).reverse
      some (if shown.isEmpty then [] else '.' :: shown, rest.dropWhile Decimal.isDigit)
  | rest => some ([], rest)

/-- A time of day at the start of a word. -/
def time? : List Char → Option (List Char × List Char)
  | a :: b :: ':' :: c :: d :: ':' :: e :: f :: rest => do
    let _ ← twoDigits? 0 23 a b
    let _ ← twoDigits? 0 59 c d
    let _ ← twoDigits? 0 60 e f
    let (fraction, rest) ← secondFraction? rest
    return ([a, b, ':', c, d, ':', e, f] ++ fraction, rest)
  | _ => none

/-- The offset from universal time, which ends the word. -/
def offset? : List Char → Option (List Char)
  | [] => some []
  | ['Z'] => some ['Z']
  | ['z'] => some ['Z']
  | [s, a, b, ':', c, d] => do
    let _ ← twoDigits? 0 23 a b
    let _ ← twoDigits? 0 59 c d
    if s = '+' ∨ s = '-' then some [s, a, b, ':', c, d] else none
  | _ => none

/-- A date, a time or both. -/
def moment? (s : List Char) : Option Value :=
  match date? s with
  | some (date, []) => some (.moment (String.ofList date))
  | some (date, c :: rest) => do
    if c ≠ 'T' && c ≠ 't' && c ≠ ' ' then none
    else
      let (time, rest) ← time? rest
      let offset ← offset? rest
      return .moment (String.ofList (date ++ 'T' :: time ++ offset))
  | none =>
    match time? s with
    | some (time, []) => some (.moment (String.ofList time))
    | _ => none

/-! ## Words without quotes -/

def isWordChar (c : Char) : Bool :=
  c.isAlphanum || c = '_' || c = '+' || c = '-' || c = '.' || c = ':'

/-- The longest word at the start; a date and a time with a space between them are one word. -/
def takeWord (s : List Char) : List Char × List Char :=
  let word := s.takeWhile isWordChar
  let rest := s.dropWhile isWordChar
  match date? word, rest with
  | some (_, []), ' ' :: c :: more =>
    if Decimal.isDigit c then
      (word ++ ' ' :: (c :: more).takeWhile isWordChar, (c :: more).dropWhile isWordChar)
    else (word, rest)
  | _, _ => (word, rest)

/-- The value of a word without quotes. -/
def word? (s : List Char) : Option Value :=
  if s = "true".toList then some (.bool true)
  else if s = "false".toList then some (.bool false)
  else ((integer? s <|> digitsFloat? s) <|> namedFloat? s) <|> moment? s

end BenchSweep.Toml
