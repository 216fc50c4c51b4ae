import BenchSweep.Decimal.Notation
import BenchSweep.Decimal.Reading
import BenchSweep.Proofs.Steps
import Mathlib.Algebra.Group.Int.Defs
import Mathlib.Algebra.Group.Nat.Defs

/-! Whole numbers in digits. Different numbers have different digits, the digits of a number denote it,
and reading accepts exactly a sign, if there is one, and digits that denote a number in the range. -/
set_option autoImplicit false

namespace BenchSweep.Decimal

/-! ## Digits -/

theorem digits_injective {m n : Nat} (h : digits m = digits n) : m = n :=
  calc
    m = Nat.ofDigitChars 10 (digits m) 0 := Nat.ofDigitChars_ten_toDigits.symm
    _ = Nat.ofDigitChars 10 (digits n) 0 := by rw [h]
    _ = n := Nat.ofDigitChars_ten_toDigits

theorem digits_ne_nil (n : Nat) : digits n ≠ [] := by
  intro h
  have hl := congrArg List.length h
  exact absurd hl (Nat.ne_of_gt Nat.length_toDigits_pos)

theorem isDigit_of_mem_digits {n : Nat} {c : Char} (h : c ∈ digits n) : c.isDigit = true :=
  Nat.isDigit_of_mem_toDigits (by decide) (by decide) h

theorem isDigit_eq (c : Char) : isDigit c = c.isDigit := by
  unfold isDigit Char.isDigit
  rfl

/-- Only zero starts with a zero. -/
theorem head?_digits_ne_zero {n : Nat} (h : n ≠ 0) : (digits n).head? ≠ some '0' := by
  induction n using Nat.strongRecOn with
  | ind n ih =>
    unfold digits
    rw [Nat.toDigits_eq_if (by decide)]
    split
    · rw [List.head?_cons, Ne, Option.some.injEq]
      intro hzero
      have hnat := Nat.toNat_digitChar_of_lt_ten ‹n < 10›
      rw [hzero] at hnat
      exact h (Nat.add_left_cancel hnat).symm
    · have hlt : n / 10 < n := by omega
      have hquotient : n / 10 ≠ 0 := by omega
      rw [List.head?_append_of_ne_nil _ Nat.toDigits_ne_nil]
      exact ih (n / 10) hlt hquotient

/-- Whether all characters are digits. -/
def AllDigits (s : List Char) : Prop := ∀ c ∈ s, isDigit c = true

theorem allDigits_digits (n : Nat) : AllDigits (digits n) := by
  intro c hc
  rw [isDigit_eq]
  exact isDigit_of_mem_digits hc

theorem allDigits_zeros (n : Nat) : AllDigits (List.replicate n '0') := by
  intro c hc
  rw [List.eq_of_mem_replicate hc]
  decide

theorem AllDigits.append {s t : List Char} (hs : AllDigits s) (ht : AllDigits t) :
    AllDigits (s ++ t) := by
  intro c hc
  exact (List.mem_append.1 hc).elim (hs c) (ht c)

theorem allDigits_cons_iff {c : Char} {s : List Char} :
    AllDigits (c :: s) ↔ isDigit c = true ∧ AllDigits s := List.forall_mem_cons

/-- A sign is no digit. -/
theorem AllDigits.head_ne_sign {c : Char} {s : List Char} (h : AllDigits (c :: s)) :
    c ≠ '+' ∧ c ≠ '-' := by
  have hc := (allDigits_cons_iff.1 h).1
  exact ⟨fun e => absurd (e ▸ hc) (by decide), fun e => absurd (e ▸ hc) (by decide)⟩

/-! ## What digits denote -/

theorem foldl_digits (acc : Nat) (ds : List Char) :
    ds.foldl (fun n c => n * 10 + (c.toNat - 48)) acc =
      acc * 10 ^ ds.length + digitsValue ds := by
  unfold digitsValue
  induction ds generalizing acc with
  | nil => simp
  | cons c ds ih =>
    rw [List.foldl_cons, List.foldl_cons, ih, ih (0 * 10 + (c.toNat - 48)), List.length_cons,
      Nat.pow_succ', Nat.add_mul, Nat.mul_assoc, Nat.zero_mul, Nat.zero_add, Nat.add_assoc]

theorem digitsValue_append (s t : List Char) :
    digitsValue (s ++ t) = digitsValue s * 10 ^ t.length + digitsValue t := by
  rw [digitsValue, List.foldl_append, foldl_digits]
  rfl

theorem digitsValue_zeros (n : Nat) : digitsValue (List.replicate n '0') = 0 := by
  induction n with
  | zero => rfl
  | succ n ih =>
    rw [List.replicate_succ', digitsValue_append, ih]
    rfl

/-- Zeros before digits make no difference. -/
theorem digitsValue_zeros_append (n : Nat) (ds : List Char) :
    digitsValue (List.replicate n '0' ++ ds) = digitsValue ds := by
  rw [digitsValue_append, digitsValue_zeros, Nat.zero_mul, Nat.zero_add]

theorem digitsValue_append_zeros (ds : List Char) (n : Nat) :
    digitsValue (ds ++ List.replicate n '0') = digitsValue ds * 10 ^ n := by
  rw [digitsValue_append, digitsValue_zeros, List.length_replicate, Nat.add_zero]

theorem digitsValue_digits (n : Nat) : digitsValue (digits n) = n := by
  have hfold : digitsValue (digits n) = Nat.ofDigitChars 10 (digits n) 0 := by
    unfold digitsValue Nat.ofDigitChars
    simp only [Nat.mul_comm]
    rfl
  rw [hfold]
  exact Nat.ofDigitChars_ten_toDigits

/-- A sign, if there is one, and digits; the integer that they denote. -/
inductive IntegerText : List Char → Int → Prop
  | plain {ds : List Char} (hne : ds ≠ []) (hds : AllDigits ds) : IntegerText ds (digitsValue ds)
  | plus {ds : List Char} (hne : ds ≠ []) (hds : AllDigits ds) :
      IntegerText ('+' :: ds) (digitsValue ds)
  | minus {ds : List Char} (hne : ds ≠ []) (hds : AllDigits ds) :
      IntegerText ('-' :: ds) (-(digitsValue ds : Int))

theorem integerText_plus_iff {ds : List Char} {n : Int} :
    IntegerText ('+' :: ds) n ↔ (ds ≠ [] ∧ AllDigits ds) ∧ n = digitsValue ds := by
  constructor
  · intro h
    cases h with
    | plain _ hds => exact (hds.head_ne_sign.1 rfl).elim
    | plus hne hds => exact ⟨⟨hne, hds⟩, rfl⟩
  · rintro ⟨⟨hne, hds⟩, rfl⟩
    exact .plus hne hds

theorem integerText_minus_iff {ds : List Char} {n : Int} :
    IntegerText ('-' :: ds) n ↔ (ds ≠ [] ∧ AllDigits ds) ∧ n = -(digitsValue ds : Int) := by
  constructor
  · intro h
    cases h with
    | plain _ hds => exact (hds.head_ne_sign.2 rfl).elim
    | minus hne hds => exact ⟨⟨hne, hds⟩, rfl⟩
  · rintro ⟨⟨hne, hds⟩, rfl⟩
    exact .minus hne hds

theorem integerText_plain_iff {ds : List Char} {n : Int} (hplus : ds.head? ≠ some '+')
    (hminus : ds.head? ≠ some '-') :
    IntegerText ds n ↔ (ds ≠ [] ∧ AllDigits ds) ∧ n = digitsValue ds := by
  constructor
  · intro h
    cases h with
    | plain hne hds => exact ⟨⟨hne, hds⟩, rfl⟩
    | plus => exact (hplus rfl).elim
    | minus => exact (hminus rfl).elim
  · rintro ⟨⟨hne, hds⟩, rfl⟩
    exact .plain hne hds

/-- Whether the text denotes this integer of 64 bits with sign. -/
def DenotesInt64 (s : List Char) (n : Int) : Prop := IntegerText s n ∧ -2 ^ 63 ≤ n ∧ n < 2 ^ 63

/-- The written form of an integer denotes it. -/
theorem integerText_integer (n : Int) : IntegerText (integer n) n := by
  have hds := allDigits_digits n.natAbs
  have hne := digits_ne_nil n.natAbs
  have hvalue := digitsValue_digits n.natAbs
  unfold integer
  split
  · rw [integerText_minus_iff, hvalue]
    exact ⟨⟨hne, hds⟩, by omega⟩
  · have h := IntegerText.plain hne hds
    rwa [hvalue, Int.natAbs_of_nonneg (by omega)] at h

/-- Integers are written with digits and a minus. -/
theorem IntegerText.mem {s : List Char} {n : Int} (h : IntegerText s n) :
    ∀ c ∈ s, c = '+' ∨ c = '-' ∨ isDigit c = true := by
  cases h with
  | plain _ hds => exact fun c hc => .inr (.inr (hds c hc))
  | plus _ hds =>
    exact List.forall_mem_cons.2 ⟨.inl rfl, fun c hc => .inr (.inr (hds c hc))⟩
  | minus _ hds =>
    exact List.forall_mem_cons.2 ⟨.inr (.inl rfl), fun c hc => .inr (.inr (hds c hc))⟩

theorem IntegerText.ne_nil {s : List Char} {n : Int} (h : IntegerText s n) : s ≠ [] := by
  cases h with
  | plain hne => exact hne
  | plus => exact List.cons_ne_nil _ _
  | minus => exact List.cons_ne_nil _ _

/-! ## Reading integers -/

theorem digit?_eq_some_iff {c : Char} {d : Nat} :
    digit? c = some d ↔ isDigit c = true ∧ c.toNat - 48 = d := by
  unfold digit? isDigit
  rw [Bool.and_eq_true, decide_eq_true_iff, decide_eq_true_iff]
  split
  · rename_i h
    simp [h]
  · rename_i h
    simp [h]

/-- Digits are read if what they denote, behind those already read, stays below the limit. -/
theorem accumulate_eq_ok_iff {limit : Nat} {overflow : IntegerError} {acc n : Nat}
    {ds : List Char} (h : acc < limit) :
    accumulate limit overflow acc ds = .ok n ↔
      AllDigits ds ∧ n = acc * 10 ^ ds.length + digitsValue ds ∧ n < limit := by
  induction ds generalizing acc with
  | nil =>
    simp only [accumulate, Except.ok.injEq]
    constructor
    · rintro rfl
      exact ⟨nofun, by simp [digitsValue], h⟩
    · rintro ⟨-, rfl, -⟩
      simp [digitsValue]
  | cons c ds ih =>
    have hfold := foldl_digits acc (c :: ds)
    rw [List.foldl_cons, foldl_digits] at hfold
    rw [accumulate, allDigits_cons_iff, ← hfold]
    cases hd : digit? c with
    | none =>
      have hc : isDigit c ≠ true := fun hc => by
        rw [digit?_eq_some_iff.2 ⟨hc, rfl⟩] at hd
        cases hd
      simp [hc]
    | some d =>
      obtain ⟨hc, rfl⟩ := digit?_eq_some_iff.1 hd
      by_cases hnext : acc * 10 + (c.toNat - 48) < limit
      · simp only [hnext, if_true, ih hnext, hc, true_and]
      · have hpow : 0 < 10 ^ ds.length := Nat.pow_pos (by decide)
        have hle := Nat.le_mul_of_pos_right (acc * 10 + (c.toNat - 48)) hpow
        simp only [hnext, if_false]
        constructor
        · exact nofun
        · rintro ⟨-, rfl, hlt⟩
          omega

theorem accumulate_zero_eq_ok_iff {limit : Nat} {overflow : IntegerError} {n : Nat}
    {ds : List Char} (h : 0 < limit) : accumulate limit overflow 0 ds = .ok n ↔
      AllDigits ds ∧ n = digitsValue ds ∧ n < limit := by
  rw [accumulate_eq_ok_iff h, Nat.zero_mul, Nat.zero_add]

section

variable {negatives positives : Nat} {ds s : List Char} {n : Int}

theorem accumulate_positive_eq_ok_iff (h : 0 < positives) :
    (accumulate positives .tooLarge 0 ds).map Int.ofNat = .ok n ↔
      (AllDigits ds ∧ n = digitsValue ds) ∧ -(negatives : Int) ≤ n ∧ n < positives := by
  simp only [map_eq_ok_iff, accumulate_zero_eq_ok_iff h, Int.ofNat_eq_natCast]
  constructor
  · rintro ⟨m, ⟨hds, rfl, hlt⟩, rfl⟩
    exact ⟨⟨hds, rfl⟩, by omega, by omega⟩
  · rintro ⟨⟨hds, rfl⟩, -, hlt⟩
    exact ⟨_, ⟨hds, rfl, by omega⟩, rfl⟩

theorem accumulate_negative_eq_ok_iff (h : 0 < positives) :
    (accumulate (negatives + 1) .tooSmall 0 ds).map (fun m => -Int.ofNat m) = .ok n ↔
      (AllDigits ds ∧ n = -(digitsValue ds : Int)) ∧ -(negatives : Int) ≤ n ∧ n < positives := by
  simp only [map_eq_ok_iff, accumulate_zero_eq_ok_iff (Nat.succ_pos negatives),
    Int.ofNat_eq_natCast]
  constructor
  · rintro ⟨m, ⟨hds, rfl, hlt⟩, rfl⟩
    exact ⟨⟨hds, rfl⟩, by omega, by omega⟩
  · rintro ⟨⟨hds, rfl⟩, hle, -⟩
    exact ⟨_, ⟨hds, rfl, by omega⟩, rfl⟩

/-- An integer is read exactly if the text denotes it and it lies in the range. -/
theorem readInteger_eq_ok_iff (h : 0 < positives) : readInteger negatives positives s = .ok n ↔
    IntegerText s n ∧ -(negatives : Int) ≤ n ∧ n < positives := by
  unfold readInteger
  split
  · have hempty : ¬IntegerText [] n := fun h => h.ne_nil rfl
    simp [hempty]
  · simp [integerText_plus_iff]
  · simp [integerText_minus_iff]
  · rename_i ds hsign
    have hne : ds ≠ [] := fun e => hsign (e ▸ rfl)
    rw [accumulate_positive_eq_ok_iff h, integerText_plus_iff, and_iff_right hne]
  · rename_i ds hsign
    have hne : ds ≠ [] := fun e => hsign (e ▸ rfl)
    rw [accumulate_negative_eq_ok_iff h, integerText_minus_iff, and_iff_right hne]
  · rename_i hne _ _ hplus hminus
    have hhead : ∀ c, s.head? = some c → ∃ ds, s = c :: ds := by
      intro c hc
      exact ⟨_, List.eq_cons_of_mem_head? hc⟩
    have hp : s.head? ≠ some '+' := fun e => (hhead _ e).elim hplus
    have hm : s.head? ≠ some '-' := fun e => (hhead _ e).elim hminus
    rw [accumulate_positive_eq_ok_iff h, integerText_plain_iff hp hm, and_iff_right hne]

theorem readInt64_eq_ok_iff : readInt64 s = .ok n ↔ DenotesInt64 s n :=
  readInteger_eq_ok_iff (Nat.pow_pos (by decide))

end

end BenchSweep.Decimal
