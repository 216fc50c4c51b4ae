import BenchSweep.Binary64
import Mathlib.Algebra.Group.Nat.Defs

/-! Patterns of 64 bits. A pattern is its sign and its magnitude. The order of all patterns is that of
integers with sign in which negative patterns have their other bits turned around, and it tells any two
patterns apart. -/
set_option autoImplicit false

namespace BenchSweep.Binary64

/-! ## Signs and magnitudes -/

theorem ofMagnitude_magnitude (x : Binary64) : ofMagnitude x.negative x.magnitude = x := by
  have hlt := x.bits.toNat_lt
  have hbits : x.magnitude % 2 ^ 63 + (if x.negative then 2 ^ 63 else 0) = x.bits.toNat := by
    unfold magnitude negative
    simp only [Nat.pow_eq, decide_eq_true_eq]
    split
    · omega
    · omega
  unfold ofMagnitude
  simp only [Nat.pow_eq]
  rw [hbits, UInt64.ofNat_toNat]

theorem magnitude_ofMagnitude (negative : Bool) {m : Nat} (h : m < 2 ^ 63) :
    (ofMagnitude negative m).magnitude = m := by
  unfold ofMagnitude magnitude
  simp only [Nat.pow_eq, UInt64.toNat_ofNat']
  split
  · omega
  · omega

theorem isFinite_ofMagnitude (negative : Bool) {m : Nat} (h : m < infinity) :
    (ofMagnitude negative m).isFinite = true := by
  have hinfinity : infinity < 2 ^ 63 := by decide
  rw [isFinite, magnitude_ofMagnitude negative (by omega), decide_eq_true_iff]
  exact h

theorem isNaN_of_isFinite {x : Binary64} (h : x.isFinite = true) : x.isNaN = false := by
  unfold isFinite at h
  unfold isNaN
  rw [decide_eq_true_iff] at h
  rw [decide_eq_false_iff_not]
  omega

/-! ## Patterns as integers -/

/-- The pattern as an integer with sign. If the sign is set the other bits are turned around, so that
greater magnitudes come first. -/
def signed (x : Binary64) : Int64 :=
  let n := x.bits.toInt64
  n ^^^ ((n >>> 63).toUInt64 >>> 1).toInt64

/-- Turning the lower bits around leaves the highest one and counts down in the others. -/
theorem xor_lowerBits {n : Nat} (hl : 2 ^ 63 ≤ n) (hu : n < 2 ^ 64) :
    n ^^^ (2 ^ 63 - 1) = 2 ^ 64 - 1 - n % 2 ^ 63 := by
  have hm : n % 2 ^ 63 < 2 ^ 63 := Nat.mod_lt _ (by decide)
  have hlow : n % 2 ^ 63 ^^^ (2 ^ 63 - 1) = 2 ^ 63 - 1 - n % 2 ^ 63 := by
    have hx := congrArg BitVec.toNat (BitVec.xor_allOnes (x := BitVec.ofNat 63 (n % 2 ^ 63)))
    rwa [BitVec.toNat_xor, BitVec.toNat_not, BitVec.toNat_allOnes, BitVec.toNat_ofNat,
      Nat.mod_eq_of_lt hm] at hx
  have hmod : (n ^^^ (2 ^ 63 - 1)) % 2 ^ 63 = 2 ^ 63 - 1 - n % 2 ^ 63 := by
    rw [Nat.xor_mod_two_pow, Nat.mod_eq_of_lt (b := 2 ^ 63) (a := 2 ^ 63 - 1) (by decide), hlow]
  have hdiv : (n ^^^ (2 ^ 63 - 1)) / 2 ^ 63 = 1 := by
    rw [Nat.xor_div_two_pow, show (2 ^ 63 - 1) / 2 ^ 63 = 0 from rfl, Nat.xor_zero]
    omega
  omega

theorem msb_iff {b : BitVec 64} : b.msb = true ↔ 2 ^ 63 ≤ b.toNat := by
  rw [BitVec.msb_eq_decide, decide_eq_true_iff]

theorem lowerBits_of_msb {b : BitVec 64} (h : b.msb = true) :
    b.sshiftRight 63 >>> 1 = 0x7FFFFFFFFFFFFFFF#64 := by
  have hz : ~~~b >>> 63 = 0#64 := by
    have hb := msb_iff.1 h
    apply BitVec.eq_of_toNat_eq
    rw [BitVec.toNat_ushiftRight, BitVec.toNat_not, Nat.shiftRight_eq_div_pow, BitVec.toNat_zero]
    omega
  rw [BitVec.sshiftRight_eq_of_msb_true h, hz]
  rfl

theorem lowerBits_of_not_msb {b : BitVec 64} (h : b.msb = false) :
    b.sshiftRight 63 >>> 1 = 0#64 := by
  have hb : ¬2 ^ 63 ≤ b.toNat := by rw [← msb_iff, h]; decide
  apply BitVec.eq_of_toNat_eq
  rw [BitVec.sshiftRight_eq_of_msb_false h, BitVec.toNat_ushiftRight, BitVec.toNat_ushiftRight,
    Nat.shiftRight_eq_div_pow, Nat.shiftRight_eq_div_pow, BitVec.toNat_zero]
  omega

theorem key_eq (x : Binary64) :
    x.key = if 2 ^ 63 ≤ x.bits.toNat then -((x.bits.toNat % 2 ^ 63 : Nat) : Int) - 1
      else ((x.bits.toNat % 2 ^ 63 : Nat) : Int) := by
  unfold key negative magnitude
  simp only [decide_eq_true_eq, Nat.pow_eq]

theorem toInt_signed (x : Binary64) : x.signed.toInt = x.key := by
  obtain ⟨⟨b⟩⟩ := x
  have hs : (signed ⟨⟨b⟩⟩).toBitVec = b ^^^ (b.sshiftRight 63 >>> 1) := rfl
  have hk := key_eq ⟨⟨b⟩⟩
  rw [show (⟨b⟩ : UInt64).toNat = b.toNat from rfl] at hk
  have hlt := b.isLt
  rw [← Int64.toInt_toBitVec, hs, BitVec.toInt_eq_toNat_cond, hk]
  cases h : b.msb with
  | true =>
    have hb := msb_iff.1 h
    rw [lowerBits_of_msb h, BitVec.toNat_xor,
      show (0x7FFFFFFFFFFFFFFF#64).toNat = 2 ^ 63 - 1 from rfl, xor_lowerBits hb hlt, if_pos hb]
    omega
  | false =>
    have hb : ¬2 ^ 63 ≤ b.toNat := by rw [← msb_iff, h]; decide
    rw [lowerBits_of_not_msb h, BitVec.xor_zero, if_neg hb]
    omega

/-! ## The order -/

theorem le_iff {x y : Binary64} : x.le y = true ↔ x.signed ≤ y.signed := by
  rw [Int64.le_iff_toInt_le, toInt_signed, toInt_signed, le, decide_eq_true_iff]

theorem key_injective {x y : Binary64} (h : x.key = y.key) : x = y := by
  obtain ⟨x⟩ := x
  obtain ⟨y⟩ := y
  have hx := x.toNat_lt
  have hy := y.toNat_lt
  rw [key_eq, key_eq] at h
  have hbits : x.toNat = y.toNat := by
    dsimp only at h
    split at h <;> split at h <;> omega
  rw [UInt64.toNat_inj.1 hbits]

theorem le_trans {x y z : Binary64} (hxy : x.le y = true) (hyz : y.le z = true) :
    x.le z = true := by
  unfold le at *
  rw [decide_eq_true_iff] at *
  exact Int.le_trans hxy hyz

theorem le_total (x y : Binary64) : (x.le y || y.le x) = true := by
  unfold le
  rw [Bool.or_eq_true, decide_eq_true_iff, decide_eq_true_iff]
  exact Int.le_total _ _

/-- Patterns that are not before each other are the same, also zeros and NaNs. -/
theorem le_antisymm {x y : Binary64} (hxy : x.le y = true) (hyx : y.le x = true) : x = y := by
  unfold le at hxy hyx
  rw [decide_eq_true_iff] at hxy hyx
  exact key_injective (Int.le_antisymm hxy hyx)

end BenchSweep.Binary64
