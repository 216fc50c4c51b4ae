import BenchSweep.Binary64

/-! Numbers read from text. Integers are a sign and digits within a range, read from the left so
that the first fault decides the error; floats also have a fraction, a power of ten and the names
of the numbers that are not finite. -/
set_option autoImplicit false

namespace BenchSweep.Decimal

/-- The value of an ASCII digit. -/
def digit? (c : Char) : Option Nat :=
  if '0' ≤ c ∧ c ≤ '9' then some (c.toNat - 48) else none

def isDigit (c : Char) : Bool := '0' ≤ c && c ≤ '9'

/-! ## Integers -/

inductive IntegerError where
  | empty
  | invalidDigit
  | tooLarge
  | tooSmall
deriving DecidableEq

def IntegerError.message : IntegerError → String
  | .empty => "cannot parse integer from empty string"
  | .invalidDigit => "invalid digit found in string"
  | .tooLarge => "number too large to fit in target type"
  | .tooSmall => "number too small to fit in target type"

/-- The number that `acc` and the digits after it denote, if it stays below `limit`. -/
def accumulate (limit : Nat) (overflow : IntegerError) (acc : Nat) :
    List Char → Except IntegerError Nat
  | [] => .ok acc
  | c :: rest =>
    match digit? c with
    | none => .error .invalidDigit
    | some d =>
      if acc * 10 + d < limit then accumulate limit overflow (acc * 10 + d) rest
      else .error overflow

/-- An optional sign and one or more digits, from `-negatives` to `positives - 1`. -/
def readInteger (negatives positives : Nat) (s : List Char) : Except IntegerError Int :=
  match s with
  | [] => .error .empty
  | ['+'] => .error .invalidDigit
  | ['-'] => .error .invalidDigit
  | '+' :: ds => (accumulate positives .tooLarge 0 ds).map Int.ofNat
  | '-' :: ds => (accumulate (negatives + 1) .tooSmall 0 ds).map (fun n => -Int.ofNat n)
  | ds => (accumulate positives .tooLarge 0 ds).map Int.ofNat

/-- An integer of 64 bits with sign. -/
def readInt64 (s : List Char) : Except IntegerError Int :=
  readInteger (Nat.pow 2 63) (Nat.pow 2 63) s

/-! ## Floats -/

inductive FloatError where
  | empty
  | invalid
deriving DecidableEq

def FloatError.message : FloatError → String
  | .empty => "cannot parse float from empty string"
  | .invalid => "invalid float literal"

/-- The magnitude nearest to `digits * 10 ^ exponent`. Exponents that leave the range whatever the
digits are need no power of ten. -/
def decimalMagnitude (digits : Nat) (exponent : Int) : Nat :=
  if digits = 0 then 0
  else if 310 < exponent then Binary64.infinity
  else if (digits.log2 : Int) * 30103 / 100000 + 1 + exponent < -330 then 0
  else if 0 ≤ exponent then Binary64.nearest (digits * Nat.pow 10 exponent.toNat) 1
  else Binary64.nearest digits (Nat.pow 10 (-exponent).toNat)

/-- The number that a list of digits denotes. -/
def digitsValue (ds : List Char) : Nat := ds.foldl (fun n c => n * 10 + (c.toNat - 48)) 0

/-- The digits at the start and the rest. -/
def takeDigits (s : List Char) : List Char × List Char := (s.takeWhile isDigit, s.dropWhile isDigit)

/-- A power of ten behind `e`, to the end of the text; nothing is the power zero. -/
def readPower : List Char → Option Int
  | [] => some 0
  | c :: rest =>
    if c ≠ 'e' ∧ c ≠ 'E' then none
    else
      let (negative, ds) := match rest with
        | '+' :: ds => (false, ds)
        | '-' :: ds => (true, ds)
        | ds => (false, ds)
      if ds.isEmpty || !ds.all isDigit then none
      else some (if negative then -(digitsValue ds : Int) else digitsValue ds)

/-- The fraction behind a point, if there is one, and the rest. -/
def takeFraction : List Char → List Char × List Char
  | '.' :: rest => takeDigits rest
  | rest => ([], rest)

/-- The magnitude of a number in digits: digits, perhaps a point and digits, at least one digit on
one side of it, perhaps a power of ten. -/
def readDigits (s : List Char) : Option Nat :=
  let (whole, rest) := takeDigits s
  let (fraction, rest) := takeFraction rest
  if whole.isEmpty && fraction.isEmpty then none
  else (readPower rest).map fun power =>
    decimalMagnitude (digitsValue (whole ++ fraction)) (power - fraction.length)

/-- The magnitude of a number without sign, in digits or by name. -/
def readMagnitude (s : List Char) : Option Nat :=
  let name := s.map Char.toLower
  if name = "inf".toList ∨ name = "infinity".toList then some Binary64.infinity
  else if name = "nan".toList then some (Binary64.nan false).magnitude
  else readDigits s

/-- A float: an optional sign and a magnitude. -/
def readFloat (s : List Char) : Except FloatError Binary64 :=
  let (negative, rest) := match s with
    | '+' :: rest => (false, rest)
    | '-' :: rest => (true, rest)
    | rest => (false, rest)
  if s.isEmpty then .error .empty
  else match readMagnitude rest with
    | some m => .ok (Binary64.ofMagnitude negative m)
    | none => .error .invalid

end BenchSweep.Decimal
