import BenchSweep.Decimal.Shortest

/-! How numbers are written in digits. `positional` and `scientific` write a decimal; a
`FloatStyle` says which of the two a number takes and what stands for a NaN. -/
set_option autoImplicit false

namespace BenchSweep.Decimal

/-- The digits of a whole number. -/
def digits (n : Nat) : List Char := Nat.toDigits 10 n

/-- A whole number, a minus before it if it is negative. -/
def integer (n : Int) : List Char := if n < 0 then '-' :: digits n.natAbs else digits n.natAbs

/-- The place of the decimal point, counted from the first digit. -/
def Scientific.point (s : Scientific) : Int := (digits s.coefficient).length + s.exponent

/-- Digits on both sides of a point, at least one on each. -/
def Scientific.positional (s : Scientific) : List Char :=
  let ds := digits s.coefficient
  let p := s.point
  if p ≤ 0 then '0' :: '.' :: List.replicate (-p).toNat '0' ++ ds
  else if ds.length ≤ p then ds ++ List.replicate (p.toNat - ds.length) '0' ++ ['.', '0']
  else ds.take p.toNat ++ '.' :: ds.drop p.toNat

/-- One digit before the point, no point if no digit follows it, and the power of ten. -/
def Scientific.scientific (s : Scientific) : List Char :=
  let power := 'e' :: integer (s.point - 1)
  match digits s.coefficient with
  | [] => power
  | [d] => d :: power
  | d :: ds => d :: '.' :: ds ++ power

/-- A way to write numbers: the text for a NaN, and the least and the greatest place of the point
that are written positionally (`none` if all are). -/
structure FloatStyle where
  nan : String
  positional : Option (Int × Int)

def FloatStyle.isPositional (style : FloatStyle) (point : Int) : Bool :=
  match style.positional with
  | none => true
  | some (least, greatest) => least ≤ point && point ≤ greatest

/-- A number without its sign. -/
def FloatStyle.unsigned (style : FloatStyle) (x : Binary64) : List Char :=
  if !x.isFinite then ['i', 'n', 'f']
  else if x.isZero then ['0', '.', '0']
  else
    let s := shortest x
    if style.isPositional s.point then s.positional else s.scientific

/-- The text of a number. The sign of a NaN is not shown. -/
def FloatStyle.write (style : FloatStyle) (x : Binary64) : String :=
  if x.isNaN then style.nan
  else String.ofList (if x.negative then '-' :: style.unsigned x else style.unsigned x)

end BenchSweep.Decimal
