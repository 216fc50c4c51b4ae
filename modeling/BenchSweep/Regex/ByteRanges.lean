/-! Ranges of code points as ranges of bytes. Every range falls into parts whose encodings have the
same length and differ in each byte within a range of its own. -/
set_option autoImplicit false

namespace BenchSweep.Regex

/-- From one number to another, both included. -/
structure Bounds where
  low : Nat
  high : Nat
deriving DecidableEq, Hashable

/-- The bytes of a code point in UTF-8. -/
def encoding (n : Nat) : List Nat :=
  if n < 0x80 then [n]
  else if n < 0x800 then [0xC0 + n / 0x40, tail n]
  else if n < 0x10000 then [0xE0 + n / 0x1000, tail (n / 0x40), tail n]
  else [0xF0 + n / 0x40000, tail (n / 0x1000), tail (n / 0x40), tail n]
where
  tail (n : Nat) : Nat := 0x80 + n % 0x40

/-- Where the second part begins if the code points from `low` to `high` do not make one row of
bytes: behind the last one with as short an encoding as the first, or at a block of code points that
differ in their last bytes only. -/
def cut? (low high : Nat) : Option Nat :=
  let short := [0x80, 0x800, 0x10000].find? fun n => low < n && n ≤ high
  let uneven := [0x40, 0x1000, 0x40000].findSome? fun block =>
    if low / block = high / block then none
    else if low % block ≠ 0 then some ((low / block + 1) * block)
    else if high % block ≠ block - 1 then some (high / block * block)
    else none
  match short with
  | some n => some n
  | none => if high < 0x80 then none else uneven

/-- The rows of byte ranges that encode the code points from `low` to `high`, in ascending order. -/
def byteRows (low high : Nat) : List (List Bounds) :=
  match cut? low high with
  | some n =>
    if _ : low < n ∧ n ≤ high then byteRows low (n - 1) ++ byteRows n high
    else []
  | none => [(encoding low).zipWith Bounds.mk (encoding high)]
termination_by high - low
decreasing_by all_goals omega

end BenchSweep.Regex
