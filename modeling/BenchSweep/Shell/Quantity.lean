import BenchSweep.Binary64
import BenchSweep.Decimal.Notation
import BenchSweep.Shell.Arithmetic

/-! Binary numbers of some precision as programs read and print them. Reading takes as much of a text
as is a number and rounds it once; printing rounds the exact value once more to the digits that are
asked for, a half going to the even digit. -/
set_option autoImplicit false

namespace BenchSweep.Shell

inductive Quantity where
  /-- `significand * 2 ^ exponent`. -/
  | finite (negative : Bool) (significand : Nat) (exponent : Int)
  | infinite (negative : Bool)
  | nan (negative : Bool)

namespace Quantity

/-- How many bits a significand has, and the least and the greatest exponent of its last bit. -/
structure Precision where
  bits : Nat
  least : Int
  greatest : Int

/-- Numbers of 64 bits. -/
def double : Precision := ⟨53, -1074, 971⟩

/-- Numbers of 80 bits. -/
def extended : Precision := ⟨64, -16445, 16320⟩

/-! ## Reading -/

/-- The number next to `num / den`, and whether it is out of range. -/
def nearest (p : Precision) (negative : Bool) (num den : Nat) : Quantity × Bool :=
  if num = 0 then (.finite negative 0 0, false)
  else
    let e : Int := (num.log2 : Int) - (den.log2 : Int) - (p.bits - 1 : Nat)
    let (n, d) := Binary64.scaled num den e
    let e := max (if n < Nat.pow 2 (p.bits - 1) * d then e - 1 else e) p.least
    let (n, d) := Binary64.scaled num den e
    let m := Binary64.divHalfEven n d
    let (m, e) := if m = Nat.pow 2 p.bits then (m / 2, e + 1) else (m, e)
    if p.greatest < e then (.infinite negative, true)
    else (.finite negative m e, m < Nat.pow 2 (p.bits - 1) && n % d ≠ 0)

/-- The number `digits * base ^ power`; powers so great that they decide alone are not carried out. -/
def scaledNearest (p : Precision) (negative : Bool) (digits base : Nat) (power : Int) :
    Quantity × Bool :=
  if digits = 0 then (.finite negative 0 0, false)
  else if 40000 < power then (.infinite negative, true)
  else if power < -40000 - (digits.log2 : Int) then (.finite negative 0 0, true)
  else nearest p negative (digits * Nat.pow base power.toNat) (Nat.pow base (-power).toNat)

/-- The whole number that digits behind a letter for a power are, and the text behind; no power if
there is none. -/
def power (letters : List Char) (cs : List Char) : Int × List Char :=
  match cs with
  | letter :: rest =>
    if !letters.contains letter then (0, cs)
    else
      let (sign, ds) : Int × List Char := match rest with
        | '-' :: ds => (-1, ds)
        | '+' :: ds => (1, ds)
        | ds => (1, ds)
      let run := ds.takeWhile Char.isDigit
      if run.isEmpty then (0, cs)
      else (sign * Arithmetic.ofDigits 10 run, ds.drop run.length)
  | [] => (0, cs)

/-- Digits with a point among them: their value without the point, how many stand behind it, how many
there are and the text behind. -/
def pointed (base : Nat) (cs : List Char) : Nat × Nat × Nat × List Char :=
  let whole := cs.takeWhile (Arithmetic.isDigitIn base)
  match cs.drop whole.length with
  | '.' :: rest =>
    let part := rest.takeWhile (Arithmetic.isDigitIn base)
    if whole.isEmpty && part.isEmpty then (0, 0, 0, cs)
    else (Arithmetic.ofDigits base (whole ++ part), part.length, (whole ++ part).length,
      rest.drop part.length)
  | rest => (Arithmetic.ofDigits base whole, 0, whole.length, rest)

/-- The text behind a word, if it starts with it in any case. -/
def behind (word : List Char) (cs : List Char) : Option (List Char) :=
  if (cs.take word.length).map Char.toLower = word then some (cs.drop word.length) else none

/-- The number that a text without a sign starts with, whether it is out of range, and the text
behind. -/
def readUnsigned (p : Precision) (negative : Bool) (cs : List Char) :
    Option ((Quantity × Bool) × List Char) :=
  match behind ['i', 'n', 'f', 'i', 'n', 'i', 't', 'y'] cs, behind ['i', 'n', 'f'] cs,
      behind ['n', 'a', 'n'] cs with
  | some rest, _, _ => some ((.infinite negative, false), rest)
  | none, some rest, _ => some ((.infinite negative, false), rest)
  | none, none, some rest => some ((.nan negative, false), rest)
  | none, none, none =>
    let hexadecimal : Option ((Quantity × Bool) × List Char) :=
      match behind ['0', 'x'] cs with
      | none => none
      | some inner =>
        let (n, places, count, rest) := pointed 16 inner
        if count = 0 then none
        else
          let (e, rest) := power ['p', 'P'] rest
          some (scaledNearest p negative n 2 (e - 4 * places), rest)
    match hexadecimal with
    | some found => some found
    | none =>
      let (n, places, count, rest) := pointed 10 cs
      if count = 0 then none
      else
        let (e, rest) := power ['e', 'E'] rest
        some (scaledNearest p negative n 10 (e - places), rest)

/-- The number that a text starts with behind spaces, whether it is out of range, and the text behind;
zero and the whole text if there is none. -/
def read (p : Precision) (cs : List Char) : Quantity × Bool × List Char :=
  let inner := cs.dropWhile Arithmetic.isSpace
  let (negative, unsigned) := match inner with
    | '-' :: rest => (true, rest)
    | '+' :: rest => (false, rest)
    | rest => (false, rest)
  match readUnsigned p negative unsigned with
  | some ((q, outOfRange), rest) => (q, outOfRange, rest)
  | none => (.finite false 0 0, false, cs)

def ofInt (n : Int) : Quantity := .finite (n < 0) n.natAbs 0

/-! ## Printing -/

def isNegative : Quantity → Bool
  | finite negative _ _ => negative
  | infinite negative => negative
  | nan negative => negative

/-- `significand * 2 ^ exponent * 10 ^ places` rounded to a whole number. -/
def roundedAt (significand : Nat) (exponent places : Int) : Nat :=
  let num := significand * Nat.pow 2 exponent.toNat * Nat.pow 10 places.toNat
  Binary64.divHalfEven num (Nat.pow 2 (-exponent).toNat * Nat.pow 10 (-places).toNat)

/-- Digits with a point before the last `places` of them. -/
def withPoint (places : Nat) (always : Bool) (ds : List Char) : List Char :=
  let ds := List.replicate (places + 1 - ds.length) '0' ++ ds
  let whole := ds.take (ds.length - places)
  if places = 0 then (if always then whole ++ ['.'] else whole)
  else whole ++ '.' :: ds.drop (ds.length - places)

/-- The digits with this many places behind the point. -/
def fixed (places : Nat) (always : Bool) (significand : Nat) (exponent : Int) : List Char :=
  withPoint places always (Decimal.digits (roundedAt significand exponent places))

/-- The power of ten of the first of `count` digits to which the number is rounded, and these digits as
a whole number. -/
def leading (count : Nat) (significand : Nat) (exponent : Int) : Int × Nat :=
  if significand = 0 then (0, 0)
  else
    let (n, d) := Binary64.scaled significand 1 (-exponent)
    let whole := n / d
    let top : Int := if 0 < whole then ((Decimal.digits whole).length : Int) - 1
      else -((Decimal.digits ((d + n - 1) / n - 1)).length : Int)
    let rounded (k : Int) : Nat := roundedAt significand exponent ((count : Int) - 1 - k)
    let r := rounded top
    if Nat.pow 10 count ≤ r then (top + 1, rounded (top + 1)) else (top, r)

/-- A power with a sign and at least `least` digits. -/
def powerText (letter : Char) (least : Nat) (e : Int) : List Char :=
  let ds := Decimal.digits e.natAbs
  letter :: (if e < 0 then '-' else '+') :: (List.replicate (least - ds.length) '0' ++ ds)

/-- One digit before the point, `places` behind it, and a power of ten. -/
def scientific (places : Nat) (always : Bool) (significand : Nat) (exponent : Int) : List Char :=
  let (top, digits) := leading (places + 1) significand exponent
  withPoint places always (Decimal.digits digits) ++ powerText 'e' 2 top

/-- The text of a decimal without the zeros at the end of its places. -/
def withoutZeros (cs : List Char) : List Char :=
  if cs.contains '.' then
    match (cs.reverse.dropWhile (· == '0')) with
    | '.' :: rest => rest.reverse
    | rest => rest.reverse
  else cs

/-- At most `count` digits, in the shorter of the two notations. -/
def general (count : Nat) (always : Bool) (significand : Nat) (exponent : Int) : List Char :=
  let count := max count 1
  let (top, digits) := leading count significand exponent
  if top < -4 ∨ (count : Int) ≤ top then
    let mantissa := withPoint (count - 1) always (Decimal.digits digits)
    (if always then mantissa else withoutZeros mantissa) ++ powerText 'e' 2 top
  else
    let places := ((count : Int) - 1 - top).toNat
    let text := fixed places always significand exponent
    if always then text else withoutZeros text

/-- Sixteenths: the first digit holds `first` bits of the significand. -/
def sixteenths (p : Precision) (first : Nat) (places : Option Nat) (always : Bool) (significand : Nat)
    (exponent : Int) : List Char :=
  if significand = 0 then
    ['0', 'x'] ++ withPoint (places.getD 0) always ['0'] ++ powerText 'p' 1 0
  else
    -- The significand with all of its bits, and the places that it has behind its first digit.
    let shift := p.bits - 1 - significand.log2
    let m := significand * Nat.pow 2 shift
    let e := exponent - shift
    let below := p.bits - first
    let all := (below + 3) / 4
    let m := m * Nat.pow 2 (4 * all - below)
    let kept := places.getD all
    let m := if kept < all then Binary64.divHalfEven m (Nat.pow 16 (all - kept))
      else m * Nat.pow 16 (kept - all)
    let text := withPoint kept always (Nat.toDigits 16 m)
    let text := if places.isNone && !always then withoutZeros text else text
    ['0', 'x'] ++ text ++ powerText 'p' 1 (e + below)

/-- The text of the absolute value in the notation that a letter names, with this precision. -/
def unsigned (p : Precision) (kind : Char) (places : Option Nat) (always : Bool) :
    Quantity → List Char
  | .infinite _ => ['i', 'n', 'f']
  | .nan _ => ['n', 'a', 'n']
  | .finite _ m e =>
    match kind with
    | 'f' => fixed (places.getD 6) always m e
    | 'e' => scientific (places.getD 6) always m e
    | 'g' => general (places.getD 6) always m e
    | _ => sixteenths p (if p.bits = 64 then 4 else 1) places always m e

end Quantity

end BenchSweep.Shell
