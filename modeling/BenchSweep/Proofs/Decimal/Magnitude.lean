import BenchSweep.Decimal.Reading
import BenchSweep.Proofs.Binary64.Rounding

/-! Decimals as magnitudes. A decimal gives the magnitude nearest to it, also where its power of ten is so
great or so small that it need not be computed. -/
set_option autoImplicit false

namespace BenchSweep

namespace Binary64

theorem size_infinity : size infinity = 2 ^ 1024 := by
  have h := size_block (e := 2045) (r := 2 ^ 53) (Nat.le_refl _) (.inr (by decide))
  have hplace : infinity = 2045 * 2 ^ 52 + 2 ^ 53 := by decide
  have hgap : gap 2045 = 2 ^ 971 := by
    unfold gap
    rw [← zpow_natCast]
    norm_num
  rw [hplace, h, hgap, Nat.cast_pow, Nat.cast_ofNat, ← pow_add]

/-- All numbers from that of the infinities on are rounded to it. -/
theorem nearest_infinity {v : ℚ} (h : 2 ^ 1024 ≤ v) : Nearest v infinity := by
  rw [← size_infinity] at h
  refine ⟨Nat.le_refl _, fun k hk => ?_⟩
  have hmono := size_strictMono.monotone hk
  rw [abs_of_nonpos (by linarith), abs_of_nonpos (by linarith)]
  exact ⟨by linarith, fun heq => .inl (size_strictMono.injective (by linarith))⟩

/-- Numbers that small are nearer to zero than to that of the infinities. -/
theorem Nearest.lt_infinity {v : ℚ} {m : Nat} (h : Nearest v m) (hnonneg : 0 ≤ v)
    (hv : v ≤ 2 ^ 63) : m < infinity := by
  refine lt_of_le_of_ne h.1 ?_
  rintro rfl
  have hzero : size 0 = 0 := by simp [size]
  have hle := (h.2 0 (Nat.zero_le _)).1
  have hpow : (2 : ℚ) ^ 64 < 2 ^ 1024 := pow_lt_pow_right₀ one_lt_two (by decide)
  rw [hzero, zero_sub, abs_neg, abs_of_nonneg hnonneg, size_infinity] at hle
  generalize (2 : ℚ) ^ 1024 = great at hpow hle
  rw [abs_of_nonneg (by linarith)] at hle
  linarith

/-- All numbers up to half of the least one are rounded to zero. -/
theorem nearest_zero_of_le {v : ℚ} (h : 0 ≤ v) (hle : v ≤ gap 0 / 2) : Nearest v 0 := by
  have hclose : |(0 : Nat) * gap 0 - v| ≤ gap 0 / 2 := by
    rw [Nat.cast_zero, zero_mul, zero_sub, abs_neg, abs_of_nonneg h]
    exact hle
  exact nearest_min (nearest_of_block (Nat.zero_le _) (.inl rfl) (.inl rfl) hclose fun _ => rfl)

end Binary64

namespace Decimal

/-- Powers compare as their bases do where the exponents have the right shares. -/
theorem pow_le_pow_of_shares {x y p q a b : Nat} (hy : 0 < y) (hq : 0 < q) (h : x ^ q ≤ y ^ p)
    (hab : a * p ≤ b * q) : x ^ a ≤ y ^ b := by
  have hpow : (x ^ a) ^ q ≤ (y ^ b) ^ q :=
    calc (x ^ a) ^ q = (x ^ q) ^ a := by rw [← Nat.pow_mul, Nat.mul_comm, Nat.pow_mul]
      _ ≤ (y ^ p) ^ a := Nat.pow_le_pow_left h a
      _ = y ^ (a * p) := by rw [← Nat.pow_mul, Nat.mul_comm]
      _ ≤ y ^ (b * q) := Nat.pow_le_pow_right hy hab
      _ = (y ^ b) ^ q := by rw [Nat.pow_mul]
  exact (Nat.pow_le_pow_iff_left hq.ne').1 hpow

/-- The share of the bits of a number that its decimal places are. -/
theorem two_pow_le_ten_pow {a b : Nat} (h : a * 30103 ≤ b * 100000) : 2 ^ a ≤ 10 ^ b :=
  pow_le_pow_of_shares (by decide) (by decide) (by decide +kernel) h

/-- The estimate of the leading digit never comes out too small. -/
theorem lt_ten_zpow (digits : Nat) :
    (digits : ℚ) < 2 * 10 ^ ((digits.log2 : ℤ) * 30103 / 100000 + 1) := by
  have hbits : 2 ^ digits.log2 ≤ 10 ^ (digits.log2 * 30103 / 100000 + 1) :=
    two_pow_le_ten_pow (by omega)
  have hlt : digits < 2 * 10 ^ (digits.log2 * 30103 / 100000 + 1) := by
    have := Nat.lt_log2_self (n := digits)
    rw [Nat.pow_succ] at this
    omega
  have hcast : ((digits.log2 : ℤ) * 30103 / 100000 + 1) =
      ((digits.log2 * 30103 / 100000 + 1 : Nat) : ℤ) := by
    push_cast
    rfl
  rw [hcast, zpow_natCast]
  exact_mod_cast hlt

theorem zpow_neg_le_zpow_neg {a b : Nat} (h : 2 ^ a ≤ 10 ^ b) :
    (10 : ℚ) ^ (-(b : ℤ)) ≤ 2 ^ (-(a : ℤ)) := by
  have hcast : (2 : ℚ) ^ a ≤ 10 ^ b := by exact_mod_cast h
  rw [zpow_neg, zpow_neg, zpow_natCast, zpow_natCast]
  exact inv_anti₀ (by positivity) hcast

/-- From the least power of ten that needs no computing on all numbers are rounded to the infinities. -/
theorem nearest_of_great {digits : Nat} {exponent : ℤ} (hne : digits ≠ 0) (h : 310 < exponent) :
    Binary64.Nearest (digits * 10 ^ exponent) Binary64.infinity := by
  have hten : (0 : ℚ) < 10 ^ exponent := by positivity
  have hone : (1 : ℚ) ≤ digits := by exact_mod_cast Nat.pos_of_ne_zero hne
  have hbound : (2 : ℚ) ^ 1024 ≤ 10 ^ 311 := by
    exact_mod_cast (two_pow_le_ten_pow (by decide) : 2 ^ 1024 ≤ 10 ^ 311)
  refine Binary64.nearest_infinity ?_
  calc (2 : ℚ) ^ 1024 ≤ 10 ^ 311 := hbound
    _ = 10 ^ (311 : ℤ) := (zpow_natCast 10 311).symm
    _ ≤ 10 ^ exponent := zpow_le_zpow_right₀ (by norm_num) (by omega)
    _ ≤ digits * 10 ^ exponent := le_mul_of_one_le_left hten.le hone

/-- Up to the greatest power of ten that needs no computing all numbers are rounded to zero. -/
theorem nearest_of_small {digits : Nat} {exponent : ℤ}
    (h : (digits.log2 : ℤ) * 30103 / 100000 + 1 + exponent < -330) :
    Binary64.Nearest (digits * 10 ^ exponent) 0 := by
  have hten : (0 : ℚ) < 10 ^ exponent := by positivity
  refine Binary64.nearest_zero_of_le (by positivity) ?_
  have hgap : Binary64.gap 0 / 2 = 2 * 2 ^ (-(1076 : Nat) : ℤ) := by
    have hsplit : ((0 : Nat) : ℤ) - 1074 = 2 + -(1076 : Nat) := by norm_num
    rw [Binary64.gap, hsplit, zpow_add₀ two_ne_zero]
    ring
  calc (digits : ℚ) * 10 ^ exponent
      ≤ 2 * 10 ^ ((digits.log2 : ℤ) * 30103 / 100000 + 1) * 10 ^ exponent :=
        mul_le_mul_of_nonneg_right (lt_ten_zpow digits).le hten.le
    _ = 2 * 10 ^ ((digits.log2 : ℤ) * 30103 / 100000 + 1 + exponent) := by
        rw [mul_assoc, ← zpow_add₀ (by norm_num)]
    _ ≤ 2 * 10 ^ (-(331 : Nat) : ℤ) :=
        mul_le_mul_of_nonneg_left (zpow_le_zpow_right₀ (by norm_num) (by omega)) two_pos.le
    _ ≤ 2 * 2 ^ (-(1076 : Nat) : ℤ) :=
        mul_le_mul_of_nonneg_left (zpow_neg_le_zpow_neg (two_pow_le_ten_pow (by decide))) two_pos.le
    _ = Binary64.gap 0 / 2 := hgap.symm

theorem decimalMagnitude_nearest (digits : Nat) (exponent : ℤ) :
    Binary64.Nearest (digits * 10 ^ exponent) (decimalMagnitude digits exponent) := by
  unfold decimalMagnitude
  split
  · rename_i hzero
    rw [hzero, Nat.cast_zero, zero_mul]
    exact Binary64.nearest_zero
  rename_i hne
  split
  · exact nearest_of_great hne ‹_›
  split
  · exact nearest_of_small ‹_›
  split
  · rename_i hnonneg
    have h := Binary64.nearest_nearest (digits * Nat.pow 10 exponent.toNat) Nat.one_pos
    rw [Nat.cast_one, div_one, Nat.pow_eq, Nat.cast_mul, Nat.cast_pow, Nat.cast_ofNat,
      ← zpow_natCast, Int.toNat_of_nonneg hnonneg] at h
    exact h
  · rename_i hneg
    have hpow : 0 < 10 ^ (-exponent).toNat := Nat.pow_pos (by decide)
    have h := Binary64.nearest_nearest digits hpow
    rw [Nat.cast_pow, Nat.cast_ofNat, ← zpow_natCast, Int.toNat_of_nonneg (by omega), zpow_neg,
      div_inv_eq_mul] at h
    exact h

end Decimal

end BenchSweep
