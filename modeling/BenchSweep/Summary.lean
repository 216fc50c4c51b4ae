import BenchSweep.Binary64

/-! Least, greatest, middle and mean of timing samples. Samples are first put into the order of all
patterns, so that nothing depends on the order in which they came. -/
set_option autoImplicit false

namespace BenchSweep

structure Summary where
  min : Binary64
  max : Binary64
  median : Binary64
  mean : Binary64
deriving DecidableEq

namespace Summary

/-- The samples in the order of all patterns. -/
def sorted (samples : List Binary64) : List Binary64 := samples.mergeSort Binary64.le

/-- The sum from the left. It starts from minus zero, which changes no number that is added. -/
def sum (samples : List Binary64) : Binary64 :=
  samples.foldl (· + ·) (Binary64.ofMagnitude true 0)

/-- The middle of an ordered list, of an even number of samples the mean of the two in the
middle. -/
def middle (s : List Binary64) : Binary64 :=
  let upper := s.getD (s.length / 2) Binary64.zero
  if s.length % 2 = 1 then upper
  else (s.getD (s.length / 2 - 1) Binary64.zero + upper) / Binary64.ofInt 2

/-- No samples have no summary. -/
def ofSamples (samples : List Binary64) : Option Summary :=
  let s := sorted samples
  match s.head?, s.getLast? with
  | some least, some greatest => some {
      min := least
      max := greatest
      median := middle s
      mean := sum s / Binary64.ofInt s.length }
  | _, _ => none

end Summary

end BenchSweep
