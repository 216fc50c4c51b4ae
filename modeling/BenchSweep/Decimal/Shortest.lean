import BenchSweep.Binary64

/-! Shortest decimals. Of all decimals that round to a finite positive number those with the
fewest digits are taken, of these the nearest one, and the greater of two that are equally
near. -/
set_option autoImplicit false

namespace BenchSweep.Decimal

/-- `coefficient * 10 ^ exponent`. -/
structure Scientific where
  coefficient : Nat
  exponent : Int
deriving DecidableEq

/-- The decimals that round to a number, over a common denominator: between `low / den` and
`high / den`, the ends included iff `closed`. -/
structure Interval where
  low : Nat
  value : Nat
  high : Nat
  den : Nat
  closed : Bool

/-- The reals that round to `x`. The gap below a power of two is half of the gap above it. -/
def Interval.of (x : Binary64) : Interval :=
  let m := x.significand
  let e := x.exponent - 2
  let below := if m = Nat.pow 2 52 ∧ -1074 < x.exponent then 1 else 2
  let up := Nat.pow 2 e.toNat
  ⟨(4 * m - below) * up, 4 * m * up, (4 * m + 2) * up, Nat.pow 2 (-e).toNat, m % 2 == 0⟩

/-- `n * 10 ^ k` and the denominator that makes it whole. -/
def tenfold (n : Nat) (k : Int) : Nat × Nat := (n * Nat.pow 10 k.toNat, Nat.pow 10 (-k).toNat)

/-- Whether `n * 10 ^ k` lies in the interval. -/
def Interval.holds (i : Interval) (n : Nat) (k : Int) : Bool :=
  let (num, den) := tenfold n k
  let p := num * i.den
  let lo := i.low * den
  let hi := i.high * den
  if i.closed then lo ≤ p && p ≤ hi else lo < p && p < hi

/-- The greatest multiple of `10 ^ k` that is not above the value. -/
def Interval.floorAt (i : Interval) (k : Int) : Nat :=
  i.value * Nat.pow 10 (-k).toNat / (i.den * Nat.pow 10 k.toNat)

/-- Of the two multiples of `10 ^ k` next to the value, the one that lies in the interval; if both
do, the nearer one, or the greater one if they are equally near. -/
def Interval.pickAt (i : Interval) (k : Int) : Option Nat :=
  let n := i.floorAt k
  match i.holds n k, i.holds (n + 1) k with
  | false, false => none
  | true, false => some n
  | false, true => some (n + 1)
  | true, true =>
    let (num, den) := tenfold (2 * n + 1) k
    if 2 * i.value * den < num * i.den then some n else some (n + 1)

/-- The first of the places `k`, `k - 1`, … that has a decimal in the interval. -/
def Interval.search (i : Interval) (k : Int) : Nat → Scientific
  | 0 => ⟨i.floorAt k, k⟩
  | fuel + 1 =>
    match i.pickAt k with
    | some n => ⟨n, k⟩
    | none => i.search (k - 1) fuel

/-- Without the zeros at the end of its digits. -/
def Scientific.stripped (s : Scientific) : Nat → Scientific
  | 0 => s
  | fuel + 1 =>
    if s.coefficient ≠ 0 ∧ s.coefficient % 10 = 0 then
      Scientific.stripped ⟨s.coefficient / 10, s.exponent + 1⟩ fuel
    else s

/-- A place above the first digit of the value. -/
def Interval.topPlace (i : Interval) : Int :=
  ((i.value.log2 : Int) - (i.den.log2 : Int) + 1) * 30103 / 100000 + 1

/-- The shortest decimal of a finite positive number. -/
def shortest (x : Binary64) : Scientific :=
  let i := Interval.of x
  (i.search i.topPlace 20).stripped 20

end BenchSweep.Decimal
