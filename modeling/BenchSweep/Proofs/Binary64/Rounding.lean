import BenchSweep.Binary64
import Mathlib.Algebra.Order.Field.Basic
import Mathlib.Algebra.Order.Field.Power
import Mathlib.Algebra.Order.Field.Rat
import Mathlib.Tactic.FieldSimp
import Mathlib.Tactic.Linarith
import Mathlib.Tactic.Ring

/-! Rounding to the nearest magnitude. Magnitudes follow one another as the numbers do that they stand
for, in blocks with one distance each; rounding a quotient within its block gives the magnitude nearest
to it, the even one of two that are equally near, and no other magnitude is like that. -/
set_option autoImplicit false

namespace BenchSweep.Binary64

/-! ## Numbers of magnitudes -/

/-- The number that a magnitude stands for. The numbers go on behind the finite ones, so that of the
infinities counts as `2 ^ 1024`. -/
def size (m : Nat) : ℚ :=
  if m < 2 ^ 52 then m * 2 ^ (-1074 : ℤ)
  else (m % 2 ^ 52 + 2 ^ 52 : Nat) * 2 ^ ((m / 2 ^ 52 : Nat) - 1075 : ℤ)

theorem size_magnitude (x : Binary64) : size x.magnitude = x.significand * 2 ^ x.exponent := by
  unfold size significand exponent
  simp only [Nat.pow_eq]
  split
  · rfl
  · rfl

/-- The distance between neighbours in a block. -/
def gap (e : Nat) : ℚ := 2 ^ ((e : ℤ) - 1074)

theorem gap_pos (e : Nat) : 0 < gap e := by
  unfold gap
  positivity

theorem gap_succ (e : Nat) : gap (e + 1) = 2 * gap e := by
  unfold gap
  rw [← zpow_one_add₀ (by norm_num)]
  congr 1
  push_cast
  ring

/-- In one block the numbers have one distance, up to the first number of the next block. -/
theorem size_block {e r : Nat} (hr : r ≤ 2 ^ 53) (h : e = 0 ∨ 2 ^ 52 ≤ r) :
    size (e * 2 ^ 52 + r) = r * gap e := by
  have hgap : ∀ e : Nat, (2 : ℚ) ^ (((e + 1 : Nat) : ℤ) - 1075) = gap e := by
    intro e
    unfold gap
    congr 1
    push_cast
    ring
  unfold size
  rcases Nat.lt_or_ge r (2 ^ 52) with hlow | hlow
  · obtain rfl : e = 0 := by omega
    rw [Nat.zero_mul, Nat.zero_add, if_pos hlow, gap, Nat.cast_zero, zero_sub]
  rcases Nat.lt_or_ge r (2 ^ 53) with hhigh | hhigh
  · have hdiv : (e * 2 ^ 52 + r) / 2 ^ 52 = e + 1 := by omega
    have hmod : (e * 2 ^ 52 + r) % 2 ^ 52 + 2 ^ 52 = r := by omega
    rw [if_neg (by omega), hdiv, hmod, hgap]
  · obtain rfl : r = 2 ^ 53 := by omega
    have hdiv : (e * 2 ^ 52 + 2 ^ 53) / 2 ^ 52 = e + 2 := by omega
    have hmod : (e * 2 ^ 52 + 2 ^ 53) % 2 ^ 52 + 2 ^ 52 = 2 ^ 52 := by omega
    rw [if_neg (by omega), hdiv, hmod, hgap (e + 1), gap_succ]
    push_cast
    ring

theorem exists_block (m : Nat) :
    ∃ e r, m = e * 2 ^ 52 + r ∧ r < 2 ^ 53 ∧ (e = 0 ∨ 2 ^ 52 ≤ r) := by
  rcases Nat.lt_or_ge m (2 ^ 52) with h | h
  · exact ⟨0, m, by omega, by omega, .inl rfl⟩
  · exact ⟨m / 2 ^ 52 - 1, m % 2 ^ 52 + 2 ^ 52, by omega, by omega, .inr (by omega)⟩

/-- The next magnitude stands for a number that is greater by the distance of its block at least. -/
theorem size_add_gap_le {e r : Nat} (hr : r ≤ 2 ^ 53) (h : e = 0 ∨ 2 ^ 52 ≤ r) :
    (r + 1) * gap e ≤ size (e * 2 ^ 52 + r + 1) := by
  rcases Nat.lt_or_ge r (2 ^ 53) with hlt | hge
  · have hnext := size_block (e := e) (r := r + 1) (by omega) (by omega)
    rw [Nat.add_assoc, hnext]
    push_cast
    exact le_refl _
  · obtain rfl : r = 2 ^ 53 := by omega
    have hnext := size_block (e := e + 1) (r := 2 ^ 52 + 1) (by omega) (by omega)
    have hplace : e * 2 ^ 52 + 2 ^ 53 + 1 = (e + 1) * 2 ^ 52 + (2 ^ 52 + 1) := by omega
    have hpos := gap_pos e
    rw [hplace, hnext, gap_succ]
    push_cast
    linarith

theorem size_strictMono : StrictMono size := by
  refine strictMono_nat_of_lt_succ fun m => ?_
  obtain ⟨e, r, rfl, hr, h⟩ := exists_block m
  refine lt_of_lt_of_le ?_ (size_add_gap_le hr.le h)
  rw [size_block hr.le h, add_mul, one_mul]
  exact lt_add_of_pos_right _ (gap_pos e)

/-! ## Nearest magnitudes -/

/-- Whether the magnitude is nearest to a number, of all magnitudes up to that of the infinities, and
the even one if another one is equally near. -/
def Nearest (v : ℚ) (m : Nat) : Prop :=
  m ≤ infinity ∧ ∀ k ≤ infinity, |size m - v| ≤ |size k - v| ∧
    (|size m - v| = |size k - v| → k = m ∨ m % 2 = 0)

/-- Two magnitudes that are equally near have no other one between them. -/
theorem Nearest.unique {v : ℚ} {m k : Nat} (hm : Nearest v m) (hk : Nearest v k) : m = k := by
  have key : ∀ {m k : Nat}, Nearest v m → Nearest v k → ¬m < k := by
    intro m k hm hk hlt
    have heq : |size m - v| = |size k - v| := (hm.2 k hk.1).1.antisymm (hk.2 m hm.1).1
    have heven : m % 2 = 0 := ((hm.2 k hk.1).2 heq).resolve_left (by omega)
    have heven' : k % 2 = 0 := ((hk.2 m hm.1).2 heq.symm).resolve_left (by omega)
    have hl := size_strictMono (show m < m + 1 by omega)
    have hu := size_strictMono (show m + 1 < k by omega)
    have hbetween := (hm.2 (m + 1) (by have := hk.1; omega)).1
    have hmk : size k - v = v - size m := by
      rcases abs_eq_abs.1 heq with h | h
      · linarith
      · linarith
    rw [abs_of_nonpos (show size m - v ≤ 0 by linarith)] at hbetween
    exact absurd hbetween (not_le.2 (abs_lt.2 ⟨by linarith, by linarith⟩))
  rcases Nat.lt_trichotomy m k with h | h | h
  · exact (key hm hk h).elim
  · exact h
  · exact (key hk hm h).elim

/-- Within its block a number is nearest to what is no more than half a distance away from it, if it is
even where the other neighbour is equally near. Below the first number of a block the distances are
shorter, so what lies not below that number is nearer to it than to all numbers before. -/
theorem nearest_of_block {v : ℚ} {e r : Nat} (hr : r ≤ 2 ^ 53) (h : e = 0 ∨ 2 ^ 52 ≤ r)
    (hnormal : e = 0 ∨ 2 ^ 52 * gap e ≤ v) (hclose : |r * gap e - v| ≤ gap e / 2)
    (heven : |r * gap e - v| = gap e / 2 → r % 2 = 0) (k : Nat) :
    |size (e * 2 ^ 52 + r) - v| ≤ |size k - v| ∧ (|size (e * 2 ^ 52 + r) - v| = |size k - v| →
      k = e * 2 ^ 52 + r ∨ (e * 2 ^ 52 + r) % 2 = 0) := by
  have hsize := size_block hr h
  have hpos := gap_pos e
  have hfar : gap e / 2 ≤ |size k - v| →
      |r * gap e - v| ≤ |size k - v| ∧ (|r * gap e - v| = |size k - v| →
        k = e * 2 ^ 52 + r ∨ (e * 2 ^ 52 + r) % 2 = 0) := by
    intro hk
    refine ⟨hclose.trans hk, fun heq => .inr ?_⟩
    have := heven (hclose.antisymm (heq ▸ hk))
    omega
  obtain ⟨hl, hh⟩ := abs_le.1 hclose
  rw [hsize]
  rcases Nat.lt_trichotomy k (e * 2 ^ 52 + r) with hk | rfl | hk
  · by_cases hfirst : e = 0 ∨ 2 ^ 52 + 1 ≤ r
    · have hbefore := size_block (e := e) (r := r - 1) (by omega) (by omega)
      have hmono := size_strictMono.monotone (show k ≤ e * 2 ^ 52 + (r - 1) by omega)
      rw [hbefore, Nat.cast_sub (by omega), Nat.cast_one, sub_mul, one_mul] at hmono
      refine hfar ?_
      rw [abs_of_nonpos (by linarith)]
      linarith
    · obtain rfl : r = 2 ^ 52 := by omega
      have hv : ((2 ^ 52 : Nat) : ℚ) * gap e ≤ v := by
        push_cast
        exact hnormal.resolve_left fun he => hfirst (.inl he)
      have hmono := size_strictMono hk
      rw [hsize] at hmono
      rw [abs_of_nonpos (by linarith), abs_of_nonpos (by linarith)]
      exact ⟨by linarith, fun heq => by linarith⟩
  · rw [hsize]
    exact ⟨le_refl _, fun _ => .inl rfl⟩
  · have hmono := size_strictMono.monotone (show e * 2 ^ 52 + r + 1 ≤ k by omega)
    have hafter := (size_add_gap_le hr h).trans hmono
    rw [add_mul, one_mul] at hafter
    refine hfar ?_
    rw [abs_of_nonneg (by linarith)]
    linarith

/-- What is nearest to a magnitude behind that of the infinities is nearest to that one among those that
count. -/
theorem nearest_min {v : ℚ} {m : Nat} (h : ∀ k, |size m - v| ≤ |size k - v| ∧
    (|size m - v| = |size k - v| → k = m ∨ m % 2 = 0)) : Nearest v (min m infinity) := by
  rcases Nat.lt_or_ge infinity m with hm | hm
  · rw [Nat.min_eq_right hm.le]
    have hv : size infinity < v := by
      have hs := size_strictMono hm
      have hle := (h infinity).1
      by_contra hv
      rw [abs_of_pos (by linarith), abs_of_nonneg (by linarith)] at hle
      linarith
    refine ⟨Nat.le_refl _, fun k hk => ?_⟩
    have hmono := size_strictMono.monotone hk
    rw [abs_of_neg (by linarith), abs_of_neg (by linarith)]
    exact ⟨by linarith, fun heq => .inl (size_strictMono.injective (by linarith))⟩
  · rw [Nat.min_eq_left hm]
    exact ⟨hm, fun k _ => h k⟩

/-- What lies between the middles to both neighbours is nearest to a magnitude, on a middle if it is
even. -/
theorem nearest_of_between {v : ℚ} {m : Nat} (hm : m < infinity)
    (hbelow : ∀ k, k + 1 = m → size k + size m ≤ 2 * v ∧ (size k + size m = 2 * v → m % 2 = 0))
    (habove : 2 * v ≤ size m + size (m + 1) ∧ (2 * v = size m + size (m + 1) → m % 2 = 0)) :
    Nearest v m := by
  refine ⟨hm.le, fun k _ => ?_⟩
  rcases Nat.lt_trichotomy k m with hk | rfl | hk
  · obtain ⟨hle, heven⟩ := hbelow (m - 1) (by omega)
    have hmono := size_strictMono.monotone (show k ≤ m - 1 by omega)
    have hlt := size_strictMono hk
    have hdist : |size k - v| = v - size k := by
      rw [abs_of_neg (by linarith)]
      ring
    rw [hdist]
    refine ⟨abs_le.2 ⟨by linarith, by linarith⟩, fun heq => .inr (heven ?_)⟩
    rcases (abs_eq (by linarith)).1 heq with h | h
    · linarith
    · linarith
  · exact ⟨le_refl _, fun _ => .inl rfl⟩
  · obtain ⟨hle, heven⟩ := habove
    have hmono := size_strictMono.monotone (show m + 1 ≤ k by omega)
    have hlt := size_strictMono hk
    have hdist : |size k - v| = size k - v := abs_of_pos (by linarith)
    rw [hdist]
    refine ⟨abs_le.2 ⟨by linarith, by linarith⟩, fun heq => .inr (heven ?_)⟩
    rcases (abs_eq (by linarith)).1 heq with h | h
    · linarith
    · linarith

/-! ## Rounding -/

theorem div_eq_add (num : Nat) {den : Nat} (hd : 0 < den) :
    (num : ℚ) / den = (num / den : Nat) + (num % den : Nat) / den := by
  have hpos : (0 : ℚ) < den := by exact_mod_cast hd
  have hnum : (num : ℚ) = den * (num / den : Nat) + (num % den : Nat) := by
    exact_mod_cast (Nat.div_add_mod num den).symm
  conv_lhs => rw [hnum]
  rw [add_div, mul_div_cancel_left₀ _ hpos.ne']

theorem abs_floor_sub (num : Nat) {den : Nat} (hd : 0 < den) :
    |((num / den : Nat) : ℚ) - num / den| = (num % den : Nat) / den := by
  have hnonneg : (0 : ℚ) ≤ (num % den : Nat) / den := by positivity
  rw [div_eq_add num hd, abs_of_nonpos (by linarith)]
  ring

theorem abs_ceil_sub (num : Nat) {den : Nat} (hd : 0 < den) :
    |((num / den + 1 : Nat) : ℚ) - num / den| = 1 - (num % den : Nat) / den := by
  have hpos : (0 : ℚ) < den := by exact_mod_cast hd
  have hlt : ((num % den : Nat) : ℚ) / den < 1 :=
    (div_lt_one hpos).2 (by exact_mod_cast Nat.mod_lt num hd)
  rw [div_eq_add num hd, Nat.cast_add, Nat.cast_one, abs_of_pos (by linarith)]
  ring

/-- The integer nearest to a quotient, the even one of two that are equally near. -/
theorem divHalfEven_close {num den : Nat} (hd : 0 < den) :
    |(divHalfEven num den : ℚ) - num / den| ≤ 1 / 2 ∧
      (|(divHalfEven num den : ℚ) - num / den| = 1 / 2 → divHalfEven num den % 2 = 0) := by
  have hpos : (0 : ℚ) < den := by exact_mod_cast hd
  have hhalf : ((num % den : Nat) : ℚ) / den < 1 / 2 ↔ 2 * (num % den) < den := by
    rw [div_lt_div_iff₀ hpos two_pos]
    norm_cast
    omega
  have hhalf' : 1 / 2 < ((num % den : Nat) : ℚ) / den ↔ den < 2 * (num % den) := by
    rw [div_lt_div_iff₀ two_pos hpos]
    norm_cast
    omega
  unfold divHalfEven
  dsimp only
  split
  · rename_i hr
    have := hhalf.2 hr
    rw [abs_floor_sub num hd]
    exact ⟨this.le, fun heq => absurd heq this.ne⟩
  split
  · rename_i hr
    have := hhalf'.2 hr
    rw [abs_ceil_sub num hd]
    exact ⟨by linarith, fun heq => by linarith⟩
  · rename_i hl hu
    have hl := not_lt.1 (mt hhalf.1 hl)
    have hu := not_lt.1 (mt hhalf'.1 hu)
    split
    · rename_i heven
      rw [abs_floor_sub num hd]
      exact ⟨hu, fun _ => heven⟩
    · rename_i hodd
      rw [abs_ceil_sub num hd]
      exact ⟨by linarith, fun _ => by omega⟩

/-- Taking a power of two out of a quotient. -/
theorem scaled_eq {num den n d : Nat} {e : ℤ} (hd : 0 < den) (h : scaled num den e = (n, d)) :
    0 < d ∧ (n : ℚ) / d * 2 ^ e = num / den := by
  unfold scaled at h
  split at h
  · rename_i he
    obtain ⟨rfl, rfl⟩ := Prod.mk.inj h
    have hpow : (2 : ℚ) ^ e = 2 ^ e.toNat := by
      rw [← zpow_natCast, Int.toNat_of_nonneg he]
    have hden : (den : ℚ) ≠ 0 := by exact_mod_cast hd.ne'
    refine ⟨Nat.mul_pos hd (Nat.pow_pos two_pos), ?_⟩
    rw [hpow, Nat.pow_eq, Nat.cast_mul, Nat.cast_pow, Nat.cast_ofNat]
    field_simp
  · rename_i he
    obtain ⟨rfl, rfl⟩ := Prod.mk.inj h
    have hpow : (2 : ℚ) ^ e = (2 ^ (-e).toNat)⁻¹ := by
      rw [← zpow_natCast, Int.toNat_of_nonneg (by omega), zpow_neg, inv_inv]
    refine ⟨hd, ?_⟩
    rw [hpow, Nat.pow_eq, Nat.cast_mul, Nat.cast_pow, Nat.cast_ofNat]
    field_simp

/-- The leading bits of two numbers tell their quotient up to a factor of four. -/
theorem quotient_bounds {num den : Nat} (hn : 0 < num) (hd : 0 < den) :
    2 ^ ((num.log2 : ℤ) - den.log2 - 1) < (num : ℚ) / den ∧
      (num : ℚ) / den < 2 ^ ((num.log2 : ℤ) - den.log2 + 1) := by
  have hpos : (0 : ℚ) < den := by exact_mod_cast hd
  have hnl : (2 : ℚ) ^ num.log2 ≤ num := by exact_mod_cast Nat.log2_self_le hn.ne'
  have hnu : (num : ℚ) < 2 ^ (num.log2 + 1) := by exact_mod_cast Nat.lt_log2_self
  have hdl : (2 : ℚ) ^ den.log2 ≤ den := by exact_mod_cast Nat.log2_self_le hd.ne'
  have hdu : (den : ℚ) < 2 ^ (den.log2 + 1) := by exact_mod_cast Nat.lt_log2_self
  constructor
  · rw [lt_div_iff₀ hpos]
    calc (2 : ℚ) ^ ((num.log2 : ℤ) - den.log2 - 1) * den
        < 2 ^ ((num.log2 : ℤ) - den.log2 - 1) * 2 ^ (den.log2 + 1) := by gcongr
      _ = 2 ^ num.log2 := by
        rw [← zpow_natCast, ← zpow_natCast, ← zpow_add₀ two_ne_zero]
        congr 1
        push_cast
        ring
      _ ≤ num := hnl
  · rw [div_lt_iff₀ hpos]
    calc (num : ℚ) < 2 ^ (num.log2 + 1) := hnu
      _ = 2 ^ ((num.log2 : ℤ) - den.log2 + 1) * 2 ^ den.log2 := by
        rw [← zpow_natCast, ← zpow_natCast, ← zpow_add₀ two_ne_zero]
        congr 1
        push_cast
        ring
      _ ≤ 2 ^ ((num.log2 : ℤ) - den.log2 + 1) * den := by gcongr

/-- The first guess at an exponent leaves a significand of 53 bits, or it is one too great. -/
theorem guessedExponent_spec {num den n d : Nat} {e : ℤ} (hn : 0 < num) (hd : 0 < den)
    (he : (num.log2 : ℤ) - den.log2 - 52 = e) (hs : scaled num den e = (n, d)) :
    ∃ e', (if n < Nat.pow 2 52 * d then e - 1 else e) = e' ∧
      2 ^ 52 * 2 ^ e' ≤ (num : ℚ) / den ∧ (num : ℚ) / den < 2 ^ 53 * 2 ^ e' := by
  obtain ⟨hl, hu⟩ := quotient_bounds hn hd
  obtain ⟨hd', hquot⟩ := scaled_eq hd hs
  have hpos : (0 : ℚ) < d := by exact_mod_cast hd'
  have hgap : (0 : ℚ) < 2 ^ e := by positivity
  have hshift : ∀ (j : Nat) (e : ℤ), (2 : ℚ) ^ j * 2 ^ e = 2 ^ (j + e) := by
    intro j e
    rw [← zpow_natCast, zpow_add₀ two_ne_zero]
  have hbits : n < Nat.pow 2 52 * d ↔ (num : ℚ) / den < 2 ^ 52 * 2 ^ e := by
    rw [← hquot, mul_lt_mul_iff_left₀ hgap, div_lt_iff₀ hpos]
    norm_cast
  refine ⟨_, rfl, ?_⟩
  by_cases hlt : n < Nat.pow 2 52 * d
  · rw [if_pos hlt]
    have h := hbits.1 hlt
    rw [hshift] at h ⊢
    rw [hshift]
    refine ⟨le_of_eq_of_le ?_ hl.le, lt_of_lt_of_eq h ?_⟩
    · congr 1
      push_cast
      omega
    · congr 1
      push_cast
      omega
  · rw [if_neg hlt]
    refine ⟨not_lt.1 (mt hbits.2 hlt), lt_of_lt_of_eq hu ?_⟩
    rw [hshift]
    congr 1
    push_cast
    omega

/-- The chosen exponent leaves a significand of 53 bits, or is the least one and leaves fewer. -/
theorem roundingExponent_spec {num den : Nat} (hn : 0 < num) (hd : 0 < den) :
    -1074 ≤ roundingExponent num den ∧
      (num : ℚ) / den < 2 ^ 53 * 2 ^ roundingExponent num den ∧
      (roundingExponent num den = -1074 ∨
        2 ^ 52 * 2 ^ roundingExponent num den ≤ (num : ℚ) / den) := by
  unfold roundingExponent
  dsimp only
  generalize he : (num.log2 : ℤ) - den.log2 - 52 = e
  cases hs : scaled num den e with
  | mk n d =>
    obtain ⟨e', he', hlow, hhigh⟩ := guessedExponent_spec hn hd he hs
    rw [he']
    rcases Int.le_total e' (-1074) with hle | hle
    · rw [max_eq_right hle]
      refine ⟨Int.le_refl _, hhigh.trans_le ?_, .inl rfl⟩
      gcongr
      norm_num
    · rw [max_eq_left hle]
      exact ⟨hle, hhigh, .inr hlow⟩

theorem nearest_zero : Nearest 0 0 := by
  have hblock : ∀ k, |size 0 - 0| ≤ |size k - 0| ∧ (|size 0 - 0| = |size k - 0| → k = 0 ∨ 0 % 2 = 0) :=
    fun k => by simp [size]
  exact nearest_min hblock

/-- Rounding to an integer in a block gives the nearest magnitude. -/
theorem nearest_of_close {q : ℚ} {e r : Nat} (hclose : |(r : ℚ) - q| ≤ 1 / 2)
    (heven : |(r : ℚ) - q| = 1 / 2 → r % 2 = 0) (hhigh : q < 2 ^ 53) (hlow : e = 0 ∨ 2 ^ 52 ≤ q) :
    Nearest (q * gap e) (min (e * 2 ^ 52 + r) infinity) := by
  have hpos := gap_pos e
  obtain ⟨hl, hh⟩ := abs_le.1 hclose
  have hr : r ≤ 2 ^ 53 := by
    have hlt : (r : ℚ) < 2 ^ 53 + 1 := by linarith
    exact Nat.lt_succ_iff.1 (by exact_mod_cast hlt)
  have hblock : e = 0 ∨ 2 ^ 52 ≤ r := by
    refine hlow.imp_right fun hlow => ?_
    have hlt : (2 : ℚ) ^ 52 < r + 1 := by linarith
    exact Nat.lt_succ_iff.1 (by exact_mod_cast hlt)
  have hnormal : e = 0 ∨ 2 ^ 52 * gap e ≤ q * gap e :=
    hlow.imp_right fun hlow => mul_le_mul_of_nonneg_right hlow hpos.le
  have hdist : |r * gap e - q * gap e| = |(r : ℚ) - q| * gap e := by
    rw [← sub_mul, abs_mul, abs_of_pos hpos]
  have hhalf : gap e / 2 = 1 / 2 * gap e := by ring
  refine nearest_min (nearest_of_block hr hblock hnormal ?_ ?_)
  · rw [hdist, hhalf]
    exact mul_le_mul_of_nonneg_right hclose hpos.le
  · rw [hdist, hhalf]
    exact fun heq => heven (mul_right_cancel₀ hpos.ne' heq)

/-- Rounding a quotient gives the magnitude nearest to it. -/
theorem nearest_nearest (num : Nat) {den : Nat} (hd : 0 < den) :
    Nearest ((num : ℚ) / den) (nearest num den) := by
  unfold nearest
  split
  · rename_i hn
    rw [hn, Nat.cast_zero, zero_div]
    exact nearest_zero
  rename_i hn
  obtain ⟨hle, hhigh, hlow⟩ := roundingExponent_spec (Nat.pos_of_ne_zero hn) hd
  dsimp only
  generalize roundingExponent num den = e at *
  cases hs : scaled num den e with
  | mk n d =>
    obtain ⟨hd', hquot⟩ := scaled_eq hd hs
    obtain ⟨hclose, heven⟩ := @divHalfEven_close n _ hd'
    have hgap : (2 : ℚ) ^ e = gap (e + 1074).toNat := by
      unfold gap
      congr 1
      omega
    have hpos := gap_pos (e + 1074).toNat
    rw [hgap] at hhigh hlow hquot
    rw [← hquot] at hhigh hlow ⊢
    rw [mul_lt_mul_iff_left₀ hpos] at hhigh
    rw [mul_le_mul_iff_left₀ hpos] at hlow
    exact nearest_of_close hclose heven hhigh (hlow.imp_left (by omega))

end BenchSweep.Binary64
