/-! Numbers of 64 bits in the binary interchange format. Unlike `Float` they keep the sign of a
NaN, which the total order of samples shows. `nearest` rounds an exact quotient; `key` puts all
bit patterns in one order. -/
set_option autoImplicit false

namespace BenchSweep

structure Binary64 where
  bits : UInt64
deriving DecidableEq

namespace Binary64

/-! ## Parts of the pattern -/

/-- The magnitude of the infinities. -/
def infinity : Nat := 2047 * Nat.pow 2 52

def negative (x : Binary64) : Bool := Nat.pow 2 63 ≤ x.bits.toNat

/-- The pattern without its sign; smaller magnitudes belong to smaller absolute values. -/
def magnitude (x : Binary64) : Nat := x.bits.toNat % Nat.pow 2 63

def isNaN (x : Binary64) : Bool := infinity < x.magnitude

def isFinite (x : Binary64) : Bool := x.magnitude < infinity

def isZero (x : Binary64) : Bool := x.magnitude == 0

/-- A finite number is `significand * 2 ^ exponent`, but for its sign. -/
def significand (x : Binary64) : Nat :=
  if x.magnitude < Nat.pow 2 52 then x.magnitude else x.magnitude % Nat.pow 2 52 + Nat.pow 2 52

def exponent (x : Binary64) : Int :=
  if x.magnitude < Nat.pow 2 52 then -1074 else (x.magnitude / Nat.pow 2 52 : Nat) - 1075

/-- The pattern with this sign and magnitude. -/
def ofMagnitude (negative : Bool) (magnitude : Nat) : Binary64 :=
  ⟨UInt64.ofNat (magnitude % Nat.pow 2 63 + if negative then Nat.pow 2 63 else 0)⟩

def zero : Binary64 := ofMagnitude false 0

/-- The quiet NaN without payload. -/
def nan (negative : Bool) : Binary64 := ofMagnitude negative (infinity + Nat.pow 2 51)

/-! ## Rounding -/

/-- `num / den`, a half going to the even neighbour. -/
def divHalfEven (num den : Nat) : Nat :=
  let q := num / den
  let r := num % den
  if 2 * r < den then q
  else if den < 2 * r then q + 1
  else if q % 2 = 0 then q else q + 1

/-- `num / (den * 2 ^ e)` with the power of two on the side where it is whole. -/
def scaled (num den : Nat) (e : Int) : Nat × Nat :=
  if 0 ≤ e then (num, den * Nat.pow 2 e.toNat) else (num * Nat.pow 2 (-e).toNat, den)

/-- The exponent at which `num / den` has a significand of 53 bits, or the least exponent. -/
def roundingExponent (num den : Nat) : Int :=
  let e : Int := (num.log2 : Int) - (den.log2 : Int) - 52
  let (n, d) := scaled num den e
  max (if n < Nat.pow 2 52 * d then e - 1 else e) (-1074)

/-- The magnitude nearest to `num / den`, a half going to the even one. -/
def nearest (num den : Nat) : Nat :=
  if num = 0 then 0
  else
    let e := roundingExponent num den
    let (n, d) := scaled num den e
    min ((e + 1074).toNat * Nat.pow 2 52 + divHalfEven n d) infinity

/-! ## Arithmetic -/

def toFloat (x : Binary64) : Float := Float.ofBits x.bits

def ofFloat (x : Float) : Binary64 := ⟨x.toBits⟩

instance : Add Binary64 := ⟨fun x y => ofFloat (x.toFloat + y.toFloat)⟩

instance : Mul Binary64 := ⟨fun x y => ofFloat (x.toFloat * y.toFloat)⟩

instance : Div Binary64 := ⟨fun x y => ofFloat (x.toFloat / y.toFloat)⟩

/-- The number nearest to an integer. -/
def ofInt (n : Int) : Binary64 := ofMagnitude (decide (n < 0)) (nearest n.natAbs 1)

/-! ## Order -/

/-- The place of a pattern among all patterns: negative ones first, the greatest magnitude
foremost, then the others by magnitude. -/
def key (x : Binary64) : Int := if x.negative then -(x.magnitude : Int) - 1 else x.magnitude

/-- Not after `y` in the order of all patterns. -/
def le (x y : Binary64) : Bool := x.key ≤ y.key

end Binary64

end BenchSweep
