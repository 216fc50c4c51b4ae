import BenchSweep.Proofs.Decimal.Integer
import BenchSweep.Proofs.Decimal.Magnitude
import BenchSweep.Proofs.Text.Pieces
import Mathlib.Data.List.TakeWhile

/-! Floats in text. A float is a sign, if there is one, and digits with a point and a power of ten or the
name of a number that is not finite; reading accepts exactly these texts and gives the number nearest to
what the digits denote. -/
set_option autoImplicit false

namespace BenchSweep.Decimal

/-! ## The grammar -/

/-- A power of ten behind the digits of a number; nothing is the power zero. -/
inductive PowerText : List Char → ℤ → Prop
  | none : PowerText [] 0
  | some {c : Char} {s : List Char} {n : ℤ} (hc : c = 'e' ∨ c = 'E') (h : IntegerText s n) :
      PowerText (c :: s) n

/-- Digits, with a point before, between or behind them or without one, and perhaps a power of ten; the
number that they denote. -/
inductive NumeralText : List Char → ℚ → Prop
  | whole {ds tail : List Char} {p : ℤ} (hne : ds ≠ []) (hds : AllDigits ds)
      (hp : PowerText tail p) : NumeralText (ds ++ tail) (digitsValue ds * 10 ^ p)
  | point {ds fs tail : List Char} {p : ℤ} (hne : ds ≠ [] ∨ fs ≠ []) (hds : AllDigits ds)
      (hfs : AllDigits fs) (hp : PowerText tail p) :
      NumeralText (ds ++ '.' :: (fs ++ tail))
        ((digitsValue ds + digitsValue fs / 10 ^ fs.length) * 10 ^ p)

/-- A float without a sign and its magnitude. Names are read without regard to case. -/
inductive MagnitudeText : List Char → Nat → Prop
  | numeral {s : List Char} {v : ℚ} {m : Nat} (h : NumeralText s v) (hm : Binary64.Nearest v m) :
      MagnitudeText s m
  | infinite {s : List Char}
      (h : s.map Char.toLower = "inf".toList ∨ s.map Char.toLower = "infinity".toList) :
      MagnitudeText s Binary64.infinity
  | nan {s : List Char} (h : s.map Char.toLower = "nan".toList) :
      MagnitudeText s (Binary64.nan false).magnitude

/-- A float in text and the number that it is read as. -/
inductive FloatText : List Char → Binary64 → Prop
  | plain {s : List Char} {m : Nat} (h : MagnitudeText s m) :
      FloatText s (Binary64.ofMagnitude false m)
  | plus {s : List Char} {m : Nat} (h : MagnitudeText s m) :
      FloatText ('+' :: s) (Binary64.ofMagnitude false m)
  | minus {s : List Char} {m : Nat} (h : MagnitudeText s m) :
      FloatText ('-' :: s) (Binary64.ofMagnitude true m)

/-! ## Powers of ten -/

/-- What can follow digits starts with no digit. -/
theorem PowerText.head {tail : List Char} {p : ℤ} (h : PowerText tail p) :
    ∀ c ∈ tail.head?, isDigit c = false := by
  cases h with
  | none => exact nofun
  | some hc _ =>
    intro c h
    obtain rfl := Option.some.inj h
    rcases hc with rfl | rfl
    · decide
    · decide

theorem powerText_cons_iff {c : Char} {s : List Char} {p : ℤ} :
    PowerText (c :: s) p ↔ (c = 'e' ∨ c = 'E') ∧ IntegerText s p := by
  constructor
  · intro h
    cases h with
    | some hc h => exact ⟨hc, h⟩
  · rintro ⟨hc, h⟩
    exact .some hc h

theorem isEmpty_or_not_all_iff {ds : List Char} :
    (ds.isEmpty || !ds.all isDigit) = true ↔ ¬(ds ≠ [] ∧ AllDigits ds) := by
  rw [Bool.or_eq_true, List.isEmpty_iff, Bool.not_eq_true', ← Bool.not_eq_true, List.all_eq_true]
  unfold AllDigits
  tauto

theorem readPower_eq_some_iff {s : List Char} {p : ℤ} : readPower s = some p ↔ PowerText s p := by
  cases s with
  | nil =>
    rw [readPower, Option.some.injEq]
    constructor
    · rintro rfl
      exact .none
    · intro h
      cases h
      rfl
  | cons c s =>
    rw [powerText_cons_iff]
    unfold readPower
    dsimp only
    by_cases hc : c ≠ 'e' ∧ c ≠ 'E'
    · rw [if_pos hc]
      simp [hc]
    rw [if_neg hc, and_iff_right (by tauto)]
    have hread : ∀ {ds : List Char} {n : ℤ}, (if ds.isEmpty || !ds.all isDigit then none
        else some n) = some p ↔ (ds ≠ [] ∧ AllDigits ds) ∧ p = n := by
      intro ds n
      by_cases h : ds ≠ [] ∧ AllDigits ds
      · rw [if_neg (mt isEmpty_or_not_all_iff.1 (not_not.2 h)), Option.some.injEq, and_iff_right h,
          eq_comm]
      · rw [if_pos (isEmpty_or_not_all_iff.2 h)]
        simp [h]
    cases s with
    | nil => exact hread.trans (integerText_plain_iff (by decide) (by decide)).symm
    | cons d s =>
      by_cases hplus : d = '+'
      · subst hplus
        exact hread.trans integerText_plus_iff.symm
      by_cases hminus : d = '-'
      · subst hminus
        exact hread.trans integerText_minus_iff.symm
      · have hplain : IntegerText (d :: s) p ↔ _ := integerText_plain_iff (by simpa) (by simpa)
        simp only [List.cons.injEq, hplus, hminus, false_and, imp_self, implies_true]
        exact hread.trans hplain.symm

/-! ## Digits and a point -/

theorem takeDigits_append {ds rest : List Char} (hd : AllDigits ds)
    (hr : ∀ c ∈ rest.head?, isDigit c = false) : takeDigits (ds ++ rest) = (ds, rest) := by
  unfold takeDigits
  rw [Text.takeWhile_append_of_head hd hr, Text.dropWhile_append_of_head hd hr]

theorem exists_takeDigits (s : List Char) : ∃ ds rest, takeDigits s = (ds, rest) ∧ s = ds ++ rest ∧
    AllDigits ds :=
  ⟨_, _, rfl, List.takeWhile_append_dropWhile.symm, fun _ hc => List.mem_takeWhile_imp hc⟩

theorem exists_takeFraction (s : List Char) : ∃ fs rest, takeFraction s = (fs, rest) ∧
    (s = '.' :: (fs ++ rest) ∨ (fs = [] ∧ s = rest)) ∧ AllDigits fs := by
  unfold takeFraction
  split
  · rename_i t
    obtain ⟨fs, rest, htake, rfl, hfs⟩ := exists_takeDigits t
    exact ⟨fs, rest, htake, .inl rfl, hfs⟩
  · exact ⟨[], s, rfl, .inr ⟨rfl, rfl⟩, nofun⟩

theorem readDigits_whole {ds tail : List Char} {p : ℤ} (hne : ds ≠ []) (hds : AllDigits ds)
    (hp : PowerText tail p) :
    readDigits (ds ++ tail) = some (decimalMagnitude (digitsValue ds) p) := by
  have hfraction : takeFraction tail = ([], tail) := by
    cases hp with
    | none => rfl
    | some hc _ => rcases hc with rfl | rfl <;> rfl
  unfold readDigits
  simp [takeDigits_append hds hp.head, hfraction, hne, readPower_eq_some_iff.2 hp]

theorem readDigits_point {ds fs tail : List Char} {p : ℤ} (hne : ds ≠ [] ∨ fs ≠ [])
    (hds : AllDigits ds) (hfs : AllDigits fs) (hp : PowerText tail p) :
    readDigits (ds ++ '.' :: (fs ++ tail)) =
      some (decimalMagnitude (digitsValue (ds ++ fs)) (p - fs.length)) := by
  have hpoint : ∀ c ∈ ('.' :: (fs ++ tail)).head?, isDigit c = false := by
    intro c hc
    obtain rfl := Option.some.inj hc
    decide
  have hfraction : takeFraction ('.' :: (fs ++ tail)) = (fs, tail) := takeDigits_append hfs hp.head
  have hempty : (ds.isEmpty && fs.isEmpty) = false := by
    rw [Bool.and_eq_false_iff, List.isEmpty_eq_false_iff, List.isEmpty_eq_false_iff]
    exact hne
  unfold readDigits
  simp [takeDigits_append hds hpoint, hfraction, hempty, readPower_eq_some_iff.2 hp]

/-- Digits behind a point count as tenths, hundredths and so on. -/
theorem digitsValue_point (ds fs : List Char) (p : ℤ) :
    (digitsValue (ds ++ fs) : ℚ) * 10 ^ (p - fs.length) =
      (digitsValue ds + digitsValue fs / 10 ^ fs.length) * 10 ^ p := by
  rw [digitsValue_append, zpow_sub₀ (by norm_num), zpow_natCast]
  push_cast
  field_simp

/-- A number in digits is read, and what is read is the magnitude nearest to it. -/
theorem NumeralText.exists_readDigits {s : List Char} {v : ℚ} (h : NumeralText s v) :
    ∃ m, readDigits s = some m ∧ Binary64.Nearest v m := by
  cases h with
  | whole hne hds hp => exact ⟨_, readDigits_whole hne hds hp, decimalMagnitude_nearest _ _⟩
  | point hne hds hfs hp =>
    refine ⟨_, readDigits_point hne hds hfs hp, ?_⟩
    rw [← digitsValue_point]
    exact decimalMagnitude_nearest _ _

theorem exists_numeralText_of_readDigits {s : List Char} {m : Nat} (h : readDigits s = some m) :
    ∃ v, NumeralText s v := by
  obtain ⟨ds, rest, htake, rfl, hds⟩ := exists_takeDigits s
  obtain ⟨fs, tail, hfraction, hrest, hfs⟩ := exists_takeFraction rest
  unfold readDigits at h
  rw [htake] at h
  dsimp only at h
  rw [hfraction] at h
  dsimp only at h
  split at h
  · cases h
  rename_i hempty
  rw [Bool.and_eq_true, List.isEmpty_iff, List.isEmpty_iff, not_and_or] at hempty
  obtain ⟨p, hp, -⟩ := Option.map_eq_some_iff.1 h
  have hp := readPower_eq_some_iff.1 hp
  rcases hrest with rfl | ⟨rfl, rfl⟩
  · exact ⟨_, .point hempty hds hfs hp⟩
  · have hne : ds ≠ [] := hempty.resolve_right (not_not.2 rfl)
    exact ⟨_, .whole hne hds hp⟩

/-- A number in digits is read exactly if it is one, and as the magnitude nearest to it. -/
theorem readDigits_eq_some_iff {s : List Char} {m : Nat} :
    readDigits s = some m ↔ ∃ v, NumeralText s v ∧ Binary64.Nearest v m := by
  constructor
  · intro h
    obtain ⟨v, hv⟩ := exists_numeralText_of_readDigits h
    obtain ⟨n, hn, hnearest⟩ := hv.exists_readDigits
    obtain rfl := Option.some.inj (h.symm.trans hn)
    exact ⟨v, hv, hnearest⟩
  · rintro ⟨v, hv, hm⟩
    obtain ⟨n, hn, hnearest⟩ := hv.exists_readDigits
    rw [hn, hnearest.unique hm]

/-! ## Names and signs -/

theorem NumeralText.head {s : List Char} {v : ℚ} (h : NumeralText s v) :
    ∃ c rest, s = c :: rest ∧ (isDigit c = true ∨ c = '.') := by
  cases h with
  | @whole ds tail p hne hds _ =>
    obtain ⟨d, ds, rfl⟩ := List.exists_cons_of_ne_nil hne
    exact ⟨d, ds ++ tail, rfl, .inl (hds d List.mem_cons_self)⟩
  | @point ds fs tail p _ hds _ _ =>
    cases ds with
    | nil => exact ⟨'.', fs ++ tail, rfl, .inr rfl⟩
    | cons d ds => exact ⟨d, _, rfl, .inl (hds d List.mem_cons_self)⟩

theorem toLower_of_isDigit {c : Char} (h : isDigit c = true) : c.toLower = c := by
  rw [isDigit_eq, Char.isDigit, Bool.and_eq_true, decide_eq_true_eq, decide_eq_true_eq] at h
  unfold Char.toLower
  rw [dif_neg]
  rintro ⟨hupper, -⟩
  have hle := UInt32.le_trans hupper h.2
  exact absurd hle (by decide)

theorem NumeralText.map_toLower_ne {s : List Char} {v : ℚ} (h : NumeralText s v) {c : Char}
    {name : List Char} (hc : isDigit c = false) (hpoint : c ≠ '.') :
    s.map Char.toLower ≠ c :: name := by
  obtain ⟨d, rest, rfl, hd⟩ := h.head
  intro heq
  obtain rfl := (List.cons.inj heq).1
  rcases hd with hd | rfl
  · rw [toLower_of_isDigit hd, hd] at hc
    cases hc
  · exact hpoint rfl

theorem readMagnitude_eq_some_iff {s : List Char} {m : Nat} :
    readMagnitude s = some m ↔ MagnitudeText s m := by
  have hnumeral : ∀ v, NumeralText s v → ¬(s.map Char.toLower = "inf".toList ∨
      s.map Char.toLower = "infinity".toList) ∧ s.map Char.toLower ≠ "nan".toList := by
    intro v hv
    have hi : ∀ name, s.map Char.toLower ≠ 'i' :: name := fun name =>
      hv.map_toLower_ne (by decide) (by decide)
    exact ⟨not_or.2 ⟨hi _, hi _⟩, hv.map_toLower_ne (by decide) (by decide)⟩
  have hnan : s.map Char.toLower = "nan".toList → ¬(s.map Char.toLower = "inf".toList ∨
      s.map Char.toLower = "infinity".toList) := by
    intro h
    rw [h]
    decide
  unfold readMagnitude
  dsimp only
  split
  · rename_i hname
    rw [Option.some.injEq]
    constructor
    · rintro rfl
      exact .infinite hname
    · intro h
      cases h with
      | numeral h => exact ((hnumeral _ h).1 hname).elim
      | infinite => rfl
      | nan h => exact (hnan h hname).elim
  split
  · rename_i hname
    rw [Option.some.injEq]
    constructor
    · rintro rfl
      exact .nan hname
    · intro h
      cases h with
      | numeral h => exact ((hnumeral _ h).2 hname).elim
      | infinite h => exact (hnan hname h).elim
      | nan => rfl
  · rename_i hinf hnan
    rw [readDigits_eq_some_iff]
    constructor
    · rintro ⟨v, hv, hm⟩
      exact .numeral hv hm
    · intro h
      cases h with
      | numeral hv hm => exact ⟨_, hv, hm⟩
      | infinite h => exact (hinf h).elim
      | nan h => exact (hnan h).elim

/-- What stands for a magnitude has no sign. -/
theorem MagnitudeText.head {s : List Char} {m : Nat} (h : MagnitudeText s m) :
    s ≠ [] ∧ s.head? ≠ some '+' ∧ s.head? ≠ some '-' := by
  have hname : ∀ {c : Char} {name : List Char}, s.map Char.toLower = c :: name → c ≠ '+' →
      c ≠ '-' → s ≠ [] ∧ s.head? ≠ some '+' ∧ s.head? ≠ some '-' := by
    intro c name heq hplus hminus
    cases s with
    | nil => cases heq
    | cons d s =>
      obtain rfl := (List.cons.inj heq).1
      refine ⟨List.cons_ne_nil _ _, fun e => hplus ?_, fun e => hminus ?_⟩
      · rw [Option.some.inj e]
        decide
      · rw [Option.some.inj e]
        decide
  cases h with
  | numeral hv _ =>
    obtain ⟨c, rest, rfl, hc⟩ := hv.head
    refine ⟨List.cons_ne_nil _ _, fun e => ?_, fun e => ?_⟩
    · rw [Option.some.inj e] at hc
      exact absurd hc (by decide)
    · rw [Option.some.inj e] at hc
      exact absurd hc (by decide)
  | infinite h =>
    rcases h with h | h
    · exact hname h (by decide) (by decide)
    · exact hname h (by decide) (by decide)
  | nan h => exact hname h (by decide) (by decide)

theorem floatText_plus_iff {s : List Char} {x : Binary64} :
    FloatText ('+' :: s) x ↔ ∃ m, MagnitudeText s m ∧ x = Binary64.ofMagnitude false m := by
  constructor
  · intro h
    cases h with
    | plain h => exact (h.head.2.1 rfl).elim
    | plus h => exact ⟨_, h, rfl⟩
  · rintro ⟨m, h, rfl⟩
    exact .plus h

theorem floatText_minus_iff {s : List Char} {x : Binary64} :
    FloatText ('-' :: s) x ↔ ∃ m, MagnitudeText s m ∧ x = Binary64.ofMagnitude true m := by
  constructor
  · intro h
    cases h with
    | plain h => exact (h.head.2.2 rfl).elim
    | minus h => exact ⟨_, h, rfl⟩
  · rintro ⟨m, h, rfl⟩
    exact .minus h

theorem floatText_plain_iff {s : List Char} {x : Binary64} (hplus : s.head? ≠ some '+')
    (hminus : s.head? ≠ some '-') :
    FloatText s x ↔ ∃ m, MagnitudeText s m ∧ x = Binary64.ofMagnitude false m := by
  constructor
  · intro h
    cases h with
    | plain h => exact ⟨_, h, rfl⟩
    | plus => exact (hplus rfl).elim
    | minus => exact (hminus rfl).elim
  · rintro ⟨m, h, rfl⟩
    exact .plain h

/-- A float is read exactly if the text is one, and as the number that it denotes. -/
theorem readFloat_eq_ok_iff {s : List Char} {x : Binary64} :
    readFloat s = .ok x ↔ FloatText s x := by
  by_cases hempty : s = []
  · subst hempty
    rw [floatText_plain_iff (by decide) (by decide)]
    constructor
    · exact nofun
    · rintro ⟨m, hm, -⟩
      exact (hm.head.1 rfl).elim
  unfold readFloat
  split
  rename_i negative t hsign
  rw [if_neg (mt List.isEmpty_iff.1 hempty)]
  suffices h : FloatText s x ↔ ∃ m, MagnitudeText t m ∧ x = Binary64.ofMagnitude negative m by
    rw [h]
    simp only [← readMagnitude_eq_some_iff]
    cases readMagnitude t with
    | none => simp
    | some m => simp [eq_comm]
  split at hsign
  · obtain ⟨rfl, rfl⟩ := Prod.mk.inj hsign
    exact floatText_plus_iff
  · obtain ⟨rfl, rfl⟩ := Prod.mk.inj hsign
    exact floatText_minus_iff
  · rename_i hplus hminus
    obtain ⟨rfl, rfl⟩ := Prod.mk.inj hsign
    exact floatText_plain_iff (fun e => hplus _ (List.eq_cons_of_mem_head? e))
      fun e => hminus _ (List.eq_cons_of_mem_head? e)

/-- An integer in digits is a float too, the one nearest to it. -/
theorem IntegerText.exists_floatText {s : List Char} {n : Int} (h : IntegerText s n) :
    ∃ negative m, FloatText s (Binary64.ofMagnitude negative m) ∧
      Binary64.Nearest (n.natAbs : ℚ) m := by
  have hnumeral : ∀ {ds : List Char}, ds ≠ [] → AllDigits ds →
      ∃ m, MagnitudeText ds m ∧ Binary64.Nearest (digitsValue ds : ℚ) m := by
    intro ds hne hds
    have htext := NumeralText.whole hne hds .none
    have hnearest := decimalMagnitude_nearest (digitsValue ds) 0
    rw [zpow_zero, mul_one] at htext hnearest
    rw [List.append_nil] at htext
    exact ⟨_, .numeral htext hnearest, hnearest⟩
  cases h with
  | plain hne hds =>
    obtain ⟨m, htext, hnearest⟩ := hnumeral hne hds
    exact ⟨false, m, .plain htext, hnearest⟩
  | plus hne hds =>
    obtain ⟨m, htext, hnearest⟩ := hnumeral hne hds
    exact ⟨false, m, .plus htext, hnearest⟩
  | minus hne hds =>
    obtain ⟨m, htext, hnearest⟩ := hnumeral hne hds
    rw [Int.natAbs_neg]
    exact ⟨true, m, .minus htext, hnearest⟩

end BenchSweep.Decimal
