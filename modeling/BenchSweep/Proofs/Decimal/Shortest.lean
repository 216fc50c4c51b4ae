import BenchSweep.Decimal.Shortest
import BenchSweep.Proofs.Decimal.Magnitude

/-! Shortest decimals round to the number that they were made from. The decimals that are looked for lie
between the middles to both neighbours of the number, and within the places that are tried there is one
that is fine enough to have such a decimal. -/
set_option autoImplicit false

namespace BenchSweep

namespace Binary64

/-! ## Neighbours of a number -/

/-- The block of a number and its place there. -/
theorem magnitude_block (x : Binary64) : -1074 ≤ x.exponent ∧ x.significand < 2 ^ 53 ∧
    x.magnitude = (x.exponent + 1074).toNat * 2 ^ 52 + x.significand ∧
    (x.exponent = -1074 ∨ 2 ^ 52 ≤ x.significand) := by
  unfold exponent significand
  simp only [Nat.pow_eq]
  generalize x.magnitude = m
  split
  · refine ⟨by omega, by omega, by omega, .inl rfl⟩
  · refine ⟨by omega, by omega, by omega, .inr (by omega)⟩

theorem exponent_le {x : Binary64} (h : x.isFinite = true) : x.exponent ≤ 971 := by
  obtain ⟨-, -, hblock, hfirst⟩ := x.magnitude_block
  have hm : x.magnitude < 2047 * 2 ^ 52 := of_decide_eq_true h
  omega

theorem gap_exponent (x : Binary64) : gap (x.exponent + 1074).toNat = 2 ^ x.exponent := by
  obtain ⟨hle, -⟩ := x.magnitude_block
  unfold gap
  congr 1
  omega

theorem size_succ (x : Binary64) :
    size (x.magnitude + 1) = (x.significand + 1) * 2 ^ x.exponent := by
  obtain ⟨hle, hlt, hblock, hfirst⟩ := x.magnitude_block
  have h := size_block (e := (x.exponent + 1074).toNat) (r := x.significand + 1) (by omega)
    (hfirst.imp (by omega) (by omega))
  rw [← Nat.add_assoc, ← hblock, gap_exponent] at h
  rw [h]
  push_cast
  rfl

/-- How far the neighbour below a number is away, in halves of the distance to that above it. -/
def below (x : Binary64) : Nat := if x.significand = 2 ^ 52 ∧ -1074 < x.exponent then 1 else 2

theorem size_pred {x : Binary64} {k : Nat} (hk : k + 1 = x.magnitude) :
    size k = (x.significand - x.below / 2) * 2 ^ x.exponent := by
  obtain ⟨hle, hlt, hblock, hfirst⟩ := x.magnitude_block
  unfold below
  split
  · rename_i hedge
    have h := size_block (e := (x.exponent + 1074).toNat - 1) (r := 2 ^ 53 - 1) (by omega)
      (.inr (by omega))
    have hgap := gap_succ ((x.exponent + 1074).toNat - 1)
    have hplace : k = ((x.exponent + 1074).toNat - 1) * 2 ^ 52 + (2 ^ 53 - 1) := by omega
    have hnext : (x.exponent + 1074).toNat - 1 + 1 = (x.exponent + 1074).toNat := by omega
    rw [hnext, gap_exponent] at hgap
    rw [hplace, h, hgap, hedge.1]
    push_cast
    ring
  · rename_i hedge
    have h := size_block (e := (x.exponent + 1074).toNat) (r := x.significand - 1) (by omega)
      (by omega)
    have hplace : k = (x.exponent + 1074).toNat * 2 ^ 52 + (x.significand - 1) := by omega
    rw [hplace, h, gap_exponent, Nat.cast_sub (by omega)]
    push_cast
    ring

end Binary64

namespace Decimal

open Binary64

/-! ## Decimals in an interval -/

theorem zpow_toNat_div (b : ℕ) (hb : 0 < b) (k : ℤ) :
    ((b ^ k.toNat : Nat) : ℚ) / (b ^ (-k).toNat : Nat) = (b : ℚ) ^ k := by
  have hne : (b : ℚ) ≠ 0 := by exact_mod_cast hb.ne'
  rw [Nat.cast_pow, Nat.cast_pow, ← zpow_natCast, ← zpow_natCast, ← zpow_sub₀ hne]
  congr 1
  omega

theorem tenfold_eq (n : Nat) (k : ℤ) : 0 < (tenfold n k).2 ∧
    ((tenfold n k).1 : ℚ) / (tenfold n k).2 = n * 10 ^ k := by
  have hpow := zpow_toNat_div 10 (by decide) k
  unfold tenfold
  refine ⟨Nat.pow_pos (by decide), ?_⟩
  rw [Nat.pow_eq, Nat.pow_eq, Nat.cast_mul, mul_div_assoc, hpow, Nat.cast_ofNat]

section

variable {a d n : Nat} {k : ℤ}

theorem div_le_tenfold_iff (hd : 0 < d) :
    (a : ℚ) / d ≤ n * 10 ^ k ↔ a * (tenfold n k).2 ≤ (tenfold n k).1 * d := by
  obtain ⟨hpos, heq⟩ := tenfold_eq n k
  rw [← heq, div_le_div_iff₀ (by exact_mod_cast hd) (by exact_mod_cast hpos)]
  norm_cast

theorem tenfold_le_div_iff (hd : 0 < d) :
    n * 10 ^ k ≤ (a : ℚ) / d ↔ (tenfold n k).1 * d ≤ a * (tenfold n k).2 := by
  obtain ⟨hpos, heq⟩ := tenfold_eq n k
  rw [← heq, div_le_div_iff₀ (by exact_mod_cast hpos) (by exact_mod_cast hd)]
  norm_cast

end

namespace Interval

variable {i : Interval} {n : Nat} {k : ℤ}

theorem holds_iff (hd : 0 < i.den) : i.holds n k = true ↔
    if i.closed then (i.low : ℚ) / i.den ≤ n * 10 ^ k ∧ n * 10 ^ k ≤ (i.high : ℚ) / i.den
    else (i.low : ℚ) / i.den < n * 10 ^ k ∧ n * 10 ^ k < (i.high : ℚ) / i.den := by
  rw [div_le_tenfold_iff hd, tenfold_le_div_iff hd, ← not_le, tenfold_le_div_iff hd, ← not_le,
    div_le_tenfold_iff hd, not_le, not_le]
  unfold holds
  dsimp only
  split
  · rw [Bool.and_eq_true, decide_eq_true_iff, decide_eq_true_iff]
  · rw [Bool.and_eq_true, decide_eq_true_iff, decide_eq_true_iff]

theorem holds_of_bounds (hd : 0 < i.den) (hl : (i.low : ℚ) / i.den < n * 10 ^ k)
    (hh : n * 10 ^ k < (i.high : ℚ) / i.den) : i.holds n k = true := by
  rw [holds_iff hd]
  split
  · exact ⟨hl.le, hh.le⟩
  · exact ⟨hl, hh⟩

theorem holds_of_pickAt (h : i.pickAt k = some n) : i.holds n k = true := by
  unfold pickAt at h
  dsimp only at h
  split at h
  · cases h
  · rename_i hn _
    rwa [← Option.some.inj h]
  · rename_i hn
    rwa [← Option.some.inj h]
  · rename_i hn hn'
    split at h
    · rwa [← Option.some.inj h]
    · rwa [← Option.some.inj h]

theorem exists_pickAt (h : i.holds (i.floorAt k + 1) k = true) : ∃ n, i.pickAt k = some n := by
  unfold pickAt
  dsimp only
  rw [h]
  cases i.holds (i.floorAt k) k with
  | false => exact ⟨_, rfl⟩
  | true =>
    dsimp only
    split
    · exact ⟨_, rfl⟩
    · exact ⟨_, rfl⟩

/-- The search comes to a decimal in the interval if there is one at a place that it tries. -/
theorem holds_search {fuel : Nat} (h : ∃ j < fuel, ∃ n, i.pickAt (k - j) = some n) :
    i.holds (i.search k fuel).coefficient (i.search k fuel).exponent = true := by
  induction fuel generalizing k with
  | zero =>
    obtain ⟨j, hj, -⟩ := h
    omega
  | succ fuel ih =>
    rw [search]
    cases hp : i.pickAt k with
    | some n => exact holds_of_pickAt hp
    | none =>
      refine ih ?_
      obtain ⟨j, hj, n, hn⟩ := h
      cases j with
      | zero =>
        rw [Nat.cast_zero, sub_zero, hp] at hn
        cases hn
      | succ j =>
        refine ⟨j, by omega, n, ?_⟩
        rwa [Nat.cast_succ, add_comm, ← sub_sub] at hn

theorem floorAt_spec (hd : 0 < i.den) (k : ℤ) : (i.floorAt k : ℚ) * 10 ^ k ≤ i.value / i.den ∧
    (i.value : ℚ) / i.den < (i.floorAt k + 1 : Nat) * 10 ^ k := by
  have hden : 0 < i.den * 10 ^ k.toNat := Nat.mul_pos hd (Nat.pow_pos (by decide))
  have hpow := zpow_toNat_div 10 (by decide) k
  have hten : (0 : ℚ) < 10 ^ k := by positivity
  have hquot : (i.value : ℚ) / i.den =
      (i.value * 10 ^ (-k).toNat : Nat) / (i.den * 10 ^ k.toNat : Nat) * 10 ^ k := by
    have hd' : (i.den : ℚ) ≠ 0 := by exact_mod_cast hd.ne'
    rw [Nat.cast_ofNat] at hpow
    rw [← hpow]
    push_cast
    field_simp
  have hlow := Nat.div_mul_le_self (i.value * 10 ^ (-k).toNat) (i.den * 10 ^ k.toNat)
  have hhigh := Nat.lt_div_mul_add hden (a := i.value * 10 ^ (-k).toNat)
  have hpos : (0 : ℚ) < (i.den * 10 ^ k.toNat : Nat) := by exact_mod_cast hden
  rw [hquot]
  unfold floorAt
  simp only [Nat.pow_eq]
  constructor
  · refine mul_le_mul_of_nonneg_right ?_ hten.le
    rw [le_div_iff₀ hpos]
    exact_mod_cast hlow
  · refine mul_lt_mul_of_pos_right ?_ hten
    rw [div_lt_iff₀ hpos]
    rw [← Nat.succ_mul] at hhigh
    exact_mod_cast hhigh

/-- At a place finer than the upper part of the interval there is a decimal in it. -/
theorem exists_pickAt_of_lt (hd : 0 < i.den) (hlow : i.low ≤ i.value)
    (h : (10 : ℚ) ^ k < (i.high - i.value) / i.den) : ∃ n, i.pickAt k = some n := by
  obtain ⟨hfloor, hnext⟩ := floorAt_spec hd k
  have hden : (0 : ℚ) < i.den := by exact_mod_cast hd
  refine exists_pickAt (holds_of_bounds hd (lt_of_le_of_lt ?_ hnext) ?_)
  · rw [div_le_div_iff_of_pos_right hden]
    exact_mod_cast hlow
  · rw [sub_div] at h
    push_cast
    linarith

/-! ## The decimals that round to a number -/

/-- The interval of a number reaches to the middles to its neighbours. -/
theorem of_ends {x : Binary64} (hx : 0 < x.significand) : 0 < (Interval.of x).den ∧
    ((Interval.of x).low : ℚ) / (Interval.of x).den =
      (x.significand - x.below / 4) * 2 ^ x.exponent ∧
    ((Interval.of x).value : ℚ) / (Interval.of x).den = x.significand * 2 ^ x.exponent ∧
    ((Interval.of x).high : ℚ) / (Interval.of x).den =
      (x.significand + 1 / 2) * 2 ^ x.exponent := by
  have hbelow : x.below ≤ 4 * x.significand := by
    unfold below
    split
    · omega
    · omega
  have hpow := zpow_toNat_div 2 (by decide) (x.exponent - 2)
  have hquarter : ∀ r : Nat, ((r * 2 ^ (x.exponent - 2).toNat : Nat) : ℚ) /
      (2 ^ (-(x.exponent - 2)).toNat : Nat) = r / 4 * 2 ^ x.exponent := by
    intro r
    rw [Nat.cast_mul, mul_div_assoc, hpow, Nat.cast_ofNat, zpow_sub₀ two_ne_zero]
    ring
  refine ⟨Nat.pow_pos two_pos, (hquarter (4 * x.significand - x.below)).trans ?_,
    (hquarter (4 * x.significand)).trans ?_, (hquarter (4 * x.significand + 2)).trans ?_⟩
  · rw [Nat.cast_sub hbelow]
    push_cast
    ring
  · push_cast
    ring
  · push_cast
    ring

/-- A decimal in the interval of a number is rounded to it. -/
theorem nearest_of_holds {x : Binary64} (hx : 0 < x.significand) (hfinite : x.isFinite = true)
    (h : (Interval.of x).holds n k = true) : Nearest (n * 10 ^ k) x.magnitude := by
  obtain ⟨hd, hlow, -, hhigh⟩ := of_ends hx
  obtain ⟨-, -, hblock, -⟩ := x.magnitude_block
  have hclosed : (Interval.of x).closed = true ↔ x.significand % 2 = 0 := beq_iff_eq
  have hm : x.magnitude < infinity := of_decide_eq_true hfinite
  rw [holds_iff hd, hlow, hhigh] at h
  generalize (n : ℚ) * 10 ^ k = v at h ⊢
  obtain ⟨hl, hu, heven⟩ : (x.significand - x.below / 4) * 2 ^ x.exponent ≤ v ∧
      v ≤ (x.significand + 1 / 2) * 2 ^ x.exponent ∧
      ((x.significand - x.below / 4) * 2 ^ x.exponent = v ∨
        v = (x.significand + 1 / 2) * 2 ^ x.exponent → x.magnitude % 2 = 0) := by
    split at h
    · rename_i hc
      have := hclosed.1 hc
      exact ⟨h.1, h.2, fun _ => by omega⟩
    · exact ⟨h.1.le, h.2.le, fun heq => (heq.elim h.1.ne h.2.ne).elim⟩
  refine nearest_of_between hm (fun j hj => ?_) ?_
  · rw [size_pred hj, size_magnitude]
    exact ⟨by linarith, fun heq => heven (.inl (by linarith))⟩
  · rw [size_succ, size_magnitude]
    exact ⟨by linarith, fun heq => heven (.inr (by linarith))⟩

end Interval

/-! ## The search -/

theorem ten_zpow_le_two_zpow {f n : ℤ} (h : f * 100000 ≤ n * 30103) (hn : n ≤ 100000) :
    (10 : ℚ) ^ f ≤ 2 ^ (n + 1) := by
  obtain ⟨b, rfl | rfl⟩ := f.eq_nat_or_neg
  · obtain ⟨a, ha⟩ := Int.eq_ofNat_of_zero_le (show 0 ≤ n + 1 by omega)
    have hle : 10 ^ b ≤ 2 ^ a :=
      pow_le_pow_of_shares (q := 30103) (p := 100001) two_pos (by decide) (by decide +kernel)
        (by omega)
    rw [ha, zpow_natCast, zpow_natCast]
    exact_mod_cast hle
  · rcases lt_or_ge (n + 1) 0 with hneg | hnonneg
    · obtain ⟨a, ha⟩ := Int.eq_ofNat_of_zero_le (show 0 ≤ -(n + 1) by omega)
      rw [show n + 1 = -(a : ℤ) by omega]
      exact zpow_neg_le_zpow_neg (two_pow_le_ten_pow (by omega))
    · exact (zpow_le_one_of_nonpos₀ (by norm_num) (by omega)).trans
        (one_le_zpow₀ (by norm_num) hnonneg)

theorem Interval.leading_le {x : Binary64} (hx : 0 < x.significand) :
    ((Interval.of x).value.log2 : ℤ) - (Interval.of x).den.log2 + 1 ≤ x.exponent + 54 := by
  obtain ⟨hd, -, hvalue, -⟩ := Interval.of_ends hx
  obtain ⟨-, hlt, -, -⟩ := x.magnitude_block
  have hpos : 0 < (Interval.of x).value := Nat.mul_pos (by omega) (Nat.pow_pos two_pos)
  obtain ⟨hlead, -⟩ := quotient_bounds hpos hd
  have hbits : (2 : ℚ) ^ (((Interval.of x).value.log2 : ℤ) - (Interval.of x).den.log2 - 1) <
      2 ^ (53 + x.exponent) :=
    calc (2 : ℚ) ^ (((Interval.of x).value.log2 : ℤ) - (Interval.of x).den.log2 - 1)
        < x.significand * 2 ^ x.exponent := hvalue ▸ hlead
      _ ≤ 2 ^ 53 * 2 ^ x.exponent :=
          mul_le_mul_of_nonneg_right (by exact_mod_cast hlt.le) (by positivity)
      _ = 2 ^ (53 + x.exponent) := by
          rw [zpow_add₀ two_ne_zero]
          norm_num
  have := (zpow_lt_zpow_iff_right₀ one_lt_two).1 hbits
  omega

/-- The places that are tried reach one that is finer than the upper part of the interval. -/
theorem exists_pickAt_topPlace {x : Binary64} (hx : 0 < x.significand)
    (hfinite : x.isFinite = true) :
    ∃ n, (Interval.of x).pickAt ((Interval.of x).topPlace - (19 : Nat)) = some n := by
  obtain ⟨hd, -, hvalue, hhigh⟩ := Interval.of_ends hx
  have hlow : (Interval.of x).low ≤ (Interval.of x).value :=
    Nat.mul_le_mul_right _ (Nat.sub_le _ _)
  have hle := Interval.leading_le hx
  have hexponent := exponent_le hfinite
  refine Interval.exists_pickAt_of_lt hd hlow ?_
  rw [sub_div, hvalue, hhigh]
  unfold Interval.topPlace
  generalize ((Interval.of x).value.log2 : ℤ) - (Interval.of x).den.log2 + 1 = n at hle ⊢
  have hten := ten_zpow_le_two_zpow (Int.ediv_mul_le (n * 30103) (by decide)) (by omega)
  calc (10 : ℚ) ^ (n * 30103 / 100000 + 1 - (19 : Nat))
      = 10 ^ (n * 30103 / 100000) * 10 ^ (-(18 : Nat) : ℤ) := by
        rw [← zpow_add₀ (by norm_num)]
        congr 1
        push_cast
        ring
    _ ≤ 2 ^ (n + 1) * 2 ^ (-(59 : Nat) : ℤ) :=
        mul_le_mul hten (zpow_neg_le_zpow_neg (two_pow_le_ten_pow (by decide))) (by positivity)
          (by positivity)
    _ = 2 ^ (n - 58) := by
        rw [← zpow_add₀ two_ne_zero]
        congr 1
        push_cast
        ring
    _ < 2 ^ (x.exponent - 1) := zpow_lt_zpow_right₀ one_lt_two (by omega)
    _ = (x.significand + 1 / 2) * 2 ^ x.exponent - x.significand * 2 ^ x.exponent := by
        rw [zpow_sub₀ two_ne_zero]
        ring

/-- The number that a decimal stands for. -/
def Scientific.value (s : Scientific) : ℚ := s.coefficient * 10 ^ s.exponent

/-- Zeros at the end make no difference to a decimal. -/
theorem value_stripped (s : Scientific) (fuel : Nat) : (s.stripped fuel).value = s.value := by
  induction fuel generalizing s with
  | zero => rfl
  | succ fuel ih =>
    rw [Scientific.stripped]
    split
    · rename_i h
      have hten : (s.coefficient : ℚ) = (s.coefficient / 10 : Nat) * 10 := by
        exact_mod_cast (Nat.div_mul_cancel (Nat.dvd_of_mod_eq_zero h.2)).symm
      rw [ih, Scientific.value, Scientific.value, hten, zpow_add₀ (by norm_num), zpow_one]
      ring
    · rfl

/-- The shortest decimal of a number is rounded to it. -/
theorem shortest_nearest {x : Binary64} (hfinite : x.isFinite = true) (hzero : x.isZero = false) :
    Nearest (shortest x).value x.magnitude := by
  have hx : 0 < x.significand := by
    obtain ⟨-, -, hblock, hfirst⟩ := x.magnitude_block
    have hm : x.magnitude ≠ 0 := beq_eq_false_iff_ne.1 hzero
    omega
  unfold shortest
  dsimp only
  rw [value_stripped]
  exact Interval.nearest_of_holds hx hfinite
    (Interval.holds_search ⟨19, by decide, exists_pickAt_topPlace hx hfinite⟩)

end Decimal

end BenchSweep
