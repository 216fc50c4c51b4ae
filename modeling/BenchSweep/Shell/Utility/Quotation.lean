import BenchSweep.Text.Utf8

/-! Texts of users as programs show them in faults. Bytes that are no printable ASCII are shown by
escapes. -/
set_option autoImplicit false

namespace BenchSweep.Shell.Quotation

def isPrintable (b : UInt8) : Bool := 0x20 ≤ b && b < 0x7F

/-- The escape of a byte without its backslash. -/
def escape (b : UInt8) : List Char :=
  match b.toNat with
  | 7 => ['a']
  | 8 => ['b']
  | 9 => ['t']
  | 10 => ['n']
  | 11 => ['v']
  | 12 => ['f']
  | 13 => ['r']
  | n => (Nat.toDigits 8 (512 + n)).drop 1

/-- A text in quotation marks, with a backslash before what needs one. -/
def quoted (s : String) : String :=
  let inner := (Text.Utf8.bytes s).flatMap fun b =>
    if b = 0x27 || b = 0x5C then ['\\', Char.ofNat b.toNat]
    else if isPrintable b then [Char.ofNat b.toNat]
    else '\\' :: escape b
  String.ofList ('\'' :: inner ++ ['\''])

/-- Whether a byte stands for itself between double quotes, too. -/
def isPlain (b : UInt8) : Bool :=
  let c := Char.ofNat b.toNat
  c.isAlphanum || [' ', '\'', '%', '+', ',', '-', '.', '/', ':', ']', '_'].contains c

/-- Bytes between single quotes; `escaping` tells that an escape stands before them. -/
def pieces : (escaping : Bool) → List UInt8 → List Char
  | _, [] => ['\'']
  | escaping, b :: bs =>
    if isPrintable b then
      let here := if b = 0x27 then ['\'', '\\', '\'', '\''] else [Char.ofNat b.toNat]
      (if escaping then ['\'', '\''] else []) ++ here ++ pieces false bs
    else
      (if escaping then [] else ['\'', '$', '\'']) ++ ('\\' :: escape b) ++ pieces true bs

/-- A text in quotation marks as a shell reads it. -/
def shellQuoted (s : String) : String :=
  let bs := Text.Utf8.bytes s
  if bs.contains 0x27 && bs.all isPlain then "\"" ++ s ++ "\""
  else String.ofList ('\'' :: pieces false bs)

/-- Whether a shell reads a text as it stands. -/
def isBare (s : String) : Bool :=
  let bs := Text.Utf8.bytes s
  !bs.isEmpty && bs.all isPrintable &&
    !s.toList.any (fun c => [' ', '!', '"', '$', '&', '(', ')', '*', ';', '<', '=', '>', '[', '^', '|',
      '?', '\\', '\'', Char.ofNat 0x60].contains c) &&
    !(s.startsWith "#" || s.startsWith "~") && s ≠ "\x7b" && s ≠ "\x7d"

/-- A text as a shell reads it, in quotation marks if it needs them. -/
def asNeeded (s : String) : String := if isBare s then s else shellQuoted s

end BenchSweep.Shell.Quotation
