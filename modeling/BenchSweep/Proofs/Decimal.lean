import BenchSweep.Proofs.Binary64
import BenchSweep.Proofs.Decimal.Literal
import BenchSweep.Proofs.Decimal.Shortest
import BenchSweep.Proofs.Text.Blank
import BenchSweep.Value

/-! The texts of numbers. They hold no blanks, so they are their own trimmed form. The text of a float
denotes its shortest decimal, which is rounded to it, so every float is read back from its text; only the
sign and the payload of a NaN are not shown. -/
set_option autoImplicit false

namespace BenchSweep

namespace Decimal

/-! ## Texts without blanks -/

/-- Whether a text holds no blanks. -/
def Solid (s : List Char) : Prop := ∀ c ∈ s, Text.isBlank c = false

theorem solid_of_any {s : List Char} (h : s.any Text.isBlank = false) : Solid s :=
  Text.not_isBlank_of_any h

theorem Solid.append {s t : List Char} (hs : Solid s) (ht : Solid t) : Solid (s ++ t) := by
  intro c hc
  exact (List.mem_append.1 hc).elim (hs c) (ht c)

theorem Solid.cons {c : Char} {s : List Char} (hc : Text.isBlank c = false) (hs : Solid s) :
    Solid (c :: s) := List.forall_mem_cons.2 ⟨hc, hs⟩

theorem solid_of_isDigit {s : List Char} (h : ∀ c ∈ s, c.isDigit = true) : Solid s := by
  intro c hc
  obtain ⟨hl, hu⟩ : 48 ≤ c.toNat ∧ c.toNat ≤ 57 := by
    have hd := h c hc
    simp only [Char.isDigit, Bool.and_eq_true, decide_eq_true_eq] at hd
    exact ⟨hd.1, hd.2⟩
  unfold Text.isBlank
  generalize c.toNat = n at hl hu
  simp
  omega

theorem solid_digits (n : Nat) : Solid (digits n) :=
  solid_of_isDigit fun _ hc => isDigit_of_mem_digits hc

theorem solid_integer (n : Int) : Solid (integer n) := by
  unfold integer
  split
  · exact .cons (by decide) (solid_digits _)
  · exact solid_digits _

theorem solid_zeros (n : Nat) : Solid (List.replicate n '0') :=
  solid_of_isDigit fun _ hc => by
    rw [List.eq_of_mem_replicate hc]
    decide

/-! ## Floats -/

theorem solid_positional (s : Scientific) : Solid s.positional := by
  have hd := solid_digits s.coefficient
  unfold Scientific.positional
  dsimp only
  split
  · exact (Solid.cons (by decide) (.cons (by decide) (solid_zeros _))).append hd
  split
  · exact (hd.append (solid_zeros _)).append (solid_of_any (by decide))
  · have ht : Solid ((digits s.coefficient).take s.point.toNat) :=
      fun c hc => hd c (List.mem_of_mem_take hc)
    have hr : Solid ((digits s.coefficient).drop s.point.toNat) :=
      fun c hc => hd c (List.mem_of_mem_drop hc)
    exact ht.append (.cons (by decide) hr)

theorem solid_scientific (s : Scientific) : Solid s.scientific := by
  have hd := solid_digits s.coefficient
  have hp : Solid ('e' :: integer (s.point - 1)) := .cons (by decide) (solid_integer _)
  unfold Scientific.scientific
  split
  · exact hp
  · rename_i d hs
    rw [hs] at hd
    exact .cons (hd d List.mem_cons_self) hp
  · rename_i d ds _ hs
    rw [hs] at hd
    obtain ⟨h, hds⟩ := List.forall_mem_cons.1 hd
    exact (Solid.cons h (.cons (by decide) hds)).append hp

theorem solid_unsigned (style : FloatStyle) (x : Binary64) : Solid (style.unsigned x) := by
  unfold FloatStyle.unsigned
  split
  · exact solid_of_any (by decide)
  split
  · exact solid_of_any (by decide)
  dsimp only
  split
  · exact solid_positional _
  · exact solid_scientific _

theorem solid_write {style : FloatStyle} (hn : Solid style.nan.toList) (x : Binary64) :
    Solid (style.write x).toList := by
  unfold FloatStyle.write
  split
  · exact hn
  rw [String.toList_ofList]
  split
  · exact .cons (by decide) (solid_unsigned style x)
  · exact solid_unsigned style x

/-! ## Marks of floats -/

theorem point_mem_positional (s : Scientific) : '.' ∈ s.positional := by
  unfold Scientific.positional
  dsimp only
  split
  · simp
  split
  · simp
  · simp

theorem e_mem_scientific (s : Scientific) : 'e' ∈ s.scientific := by
  unfold Scientific.scientific
  split
  · simp
  · simp
  · simp

theorem exists_mark_unsigned (style : FloatStyle) {x : Binary64} (hx : x.isFinite = true) :
    ∃ c ∈ style.unsigned x, c = '.' ∨ c = 'e' := by
  unfold FloatStyle.unsigned
  rw [hx, Bool.not_true, if_neg Bool.false_ne_true]
  split
  · exact ⟨'.', by decide, .inl rfl⟩
  dsimp only
  split
  · exact ⟨'.', point_mem_positional _, .inl rfl⟩
  · exact ⟨'e', e_mem_scientific _, .inr rfl⟩

/-! ## What the texts denote -/

theorem numeralText_of_digits {ds fs tail : List Char} {p : ℤ} {v : ℚ} (hne : ds ≠ [])
    (hds : AllDigits ds) (hfs : AllDigits fs) (hp : PowerText tail p)
    (hv : digitsValue (ds ++ fs) * (10 : ℚ) ^ (p - fs.length) = v) :
    NumeralText (ds ++ '.' :: (fs ++ tail)) v := by
  rw [← hv, digitsValue_point]
  exact .point (.inl hne) hds hfs hp

/-- Zeros behind the digits of a decimal move its point. -/
theorem numeralText_of_zeros {ds fs : List Char} {s : Scientific} {zeros : Nat} (hne : ds ≠ [])
    (hds : AllDigits ds) (hfs : AllDigits fs)
    (hdigits : digitsValue (ds ++ fs) = s.coefficient * 10 ^ zeros)
    (hexponent : s.exponent = zeros - fs.length) : NumeralText (ds ++ '.' :: fs) s.value := by
  have hv : digitsValue (ds ++ fs) * (10 : ℚ) ^ ((0 : ℤ) - fs.length) = s.value := by
    rw [hdigits, Nat.cast_mul, Nat.cast_pow, Nat.cast_ofNat, mul_assoc, ← zpow_natCast,
      ← zpow_add₀ (by norm_num), Scientific.value, hexponent]
    congr 2
    ring
  have h := numeralText_of_digits hne hds hfs .none hv
  rwa [List.append_nil] at h

/-- A decimal with digits on both sides of a point is written as what it stands for. -/
theorem numeralText_positional (s : Scientific) : NumeralText s.positional s.value := by
  have hd := allDigits_digits s.coefficient
  have hne := digits_ne_nil s.coefficient
  have hvalue := digitsValue_digits s.coefficient
  have hzero : ['0'] = List.replicate 1 '0' := rfl
  unfold Scientific.positional
  dsimp only
  generalize hpoint : s.point = p
  have hplace : s.exponent = p - (digits s.coefficient).length := by
    rw [← hpoint, Scientific.point]
    omega
  generalize digits s.coefficient = ds at *
  split
  · have hdigits : digitsValue (['0'] ++ (List.replicate (-p).toNat '0' ++ ds)) =
        s.coefficient * 10 ^ 0 := by
      rw [hzero, digitsValue_zeros_append, digitsValue_zeros_append, hvalue, Nat.pow_zero,
        Nat.mul_one]
    exact numeralText_of_zeros (List.cons_ne_nil '0' []) (allDigits_zeros 1)
      ((allDigits_zeros _).append hd) hdigits (by simp; omega)
  split
  · have hdigits : digitsValue (ds ++ List.replicate (p.toNat - ds.length) '0' ++ ['0']) =
        s.coefficient * 10 ^ (p.toNat - ds.length + 1) := by
      rw [hzero, digitsValue_append_zeros, digitsValue_append_zeros, hvalue, Nat.mul_assoc,
        ← Nat.pow_add]
    exact numeralText_of_zeros (by simp [hne]) (hd.append (allDigits_zeros _)) (allDigits_zeros 1)
      hdigits (by simp; omega)
  · have hdigits : digitsValue (ds.take p.toNat ++ ds.drop p.toNat) = s.coefficient * 10 ^ 0 := by
      rw [List.take_append_drop, hvalue, Nat.pow_zero, Nat.mul_one]
    have htake : ds.take p.toNat ≠ [] := by
      rw [Ne, List.take_eq_nil_iff]
      rintro (h | h)
      · omega
      · exact hne h
    exact numeralText_of_zeros htake (fun c hc => hd c (List.mem_of_mem_take hc))
      (fun c hc => hd c (List.mem_of_mem_drop hc)) hdigits (by simp; omega)

theorem numeralText_scientific (s : Scientific) : NumeralText s.scientific s.value := by
  have hd := allDigits_digits s.coefficient
  have hvalue := digitsValue_digits s.coefficient
  have hpower : PowerText ('e' :: integer (s.point - 1)) (s.point - 1) :=
    .some (.inl rfl) (integerText_integer _)
  have hplace : s.point = (digits s.coefficient).length + s.exponent := rfl
  unfold Scientific.scientific
  split
  · rename_i hs
    exact (digits_ne_nil _ hs).elim
  · rename_i d hs
    rw [hs] at hd hvalue hplace
    have h := NumeralText.whole (List.cons_ne_nil d []) hd hpower
    have hexponent : s.point - 1 = s.exponent := by
      rw [hplace, List.length_singleton]
      omega
    rw [hvalue, hexponent] at h
    rwa [hexponent]
  · rename_i d ds _ hs
    rw [hs] at hd hvalue hplace
    obtain ⟨hfirst, hds⟩ := allDigits_cons_iff.1 hd
    have hexponent : s.point - 1 - ds.length = s.exponent := by
      rw [hplace, List.length_cons]
      push_cast
      ring
    refine numeralText_of_digits (List.cons_ne_nil d []) (List.forall_mem_singleton.2 hfirst) hds
      hpower ?_
    rw [List.singleton_append, hvalue, hexponent]
    rfl

/-- The text of a number without its sign denotes its magnitude. -/
theorem magnitudeText_unsigned (style : FloatStyle) {x : Binary64} (hx : x.isNaN = false) :
    MagnitudeText (style.unsigned x) x.magnitude := by
  unfold FloatStyle.unsigned
  split
  · rename_i hfinite
    have hinfinite : x.magnitude = Binary64.infinity := by
      rw [Bool.not_eq_true', Binary64.isFinite, decide_eq_false_iff_not] at hfinite
      rw [Binary64.isNaN, decide_eq_false_iff_not] at hx
      omega
    rw [hinfinite]
    exact .infinite (.inl (by decide))
  rename_i hfinite
  rw [Bool.not_eq_true', Bool.not_eq_false] at hfinite
  split
  · rename_i hzero
    have hmagnitude : x.magnitude = 0 := beq_iff_eq.1 hzero
    have hnumeral : NumeralText "0.0".toList 0 :=
      numeralText_of_digits (List.cons_ne_nil '0' []) (allDigits_zeros 1) (allDigits_zeros 1) .none
        (by simp [digitsValue])
    rw [hmagnitude]
    exact .numeral hnumeral Binary64.nearest_zero
  rename_i hzero
  have hnearest := shortest_nearest hfinite (Bool.eq_false_iff.2 hzero)
  dsimp only
  split
  · exact .numeral (numeralText_positional _) hnearest
  · exact .numeral (numeralText_scientific _) hnearest

end Decimal

theorem trim_floatText (x : Binary64) : Text.trim (floatText x).toList = (floatText x).toList :=
  Text.trim_of_forall_not (Decimal.solid_write (Decimal.solid_of_any (by decide)) x)

/-- A finite number is written with a point or a power of ten. -/
theorem exists_mark_floatText {x : Binary64} (hx : x.isFinite = true) :
    ∃ c ∈ (floatText x).toList, c = '.' ∨ c = 'e' := by
  obtain ⟨c, hc, hmark⟩ := Decimal.exists_mark_unsigned floatStyle hx
  refine ⟨c, ?_, hmark⟩
  unfold floatText Decimal.FloatStyle.write
  rw [Binary64.isNaN_of_isFinite hx, if_neg Bool.false_ne_true, String.toList_ofList]
  split
  · exact List.mem_cons_of_mem _ hc
  · exact hc

/-! ## Numbers that are read back -/

/-- The number that the text of a number shows: of a NaN it keeps neither sign nor payload. -/
def Binary64.shown (x : Binary64) : Binary64 := if x.isNaN then Binary64.nan false else x

theorem Binary64.shown_of_isFinite {x : Binary64} (h : x.isFinite = true) : x.shown = x := by
  unfold shown
  rw [isNaN_of_isFinite h, if_neg Bool.false_ne_true]

/-- Whether the text of a number is read as what it shows. -/
def Binary64.ReadsBack (x : Binary64) : Prop :=
  Decimal.readFloat (floatText x).toList = .ok x.shown

/-- The text of a number denotes it, in whatever style, unless it is a NaN. -/
theorem Decimal.floatText_write (style : FloatStyle) {x : Binary64} (hx : x.isNaN = false) :
    FloatText (style.write x).toList x := by
  have htext := magnitudeText_unsigned style hx
  have hmagnitude := x.ofMagnitude_magnitude
  unfold FloatStyle.write
  rw [hx, if_neg Bool.false_ne_true, String.toList_ofList]
  split
  · rename_i hnegative
    have h := FloatText.minus htext
    rwa [← hnegative, hmagnitude] at h
  · rename_i hnegative
    have h := FloatText.plain htext
    rwa [← Bool.eq_false_iff.2 hnegative, hmagnitude] at h

/-- The text of every number is read as what it shows. -/
theorem Binary64.readsBack (x : Binary64) : x.ReadsBack := by
  unfold ReadsBack shown floatText
  split
  · rename_i hnan
    unfold Decimal.FloatStyle.write
    rw [if_pos hnan]
    decide
  · rename_i hnan
    exact Decimal.readFloat_eq_ok_iff.2 (Decimal.floatText_write _ (Bool.eq_false_iff.2 hnan))

/-- The number that is read from the text of a number. -/
def Binary64.reread (x : Binary64) : Binary64 :=
  match Decimal.readFloat (floatText x).toList with
  | .ok y => y
  | .error _ => Binary64.zero

theorem readFloat_floatText (x : Binary64) :
    Decimal.readFloat (floatText x).toList = .ok x.reread := by
  have h := x.readsBack
  unfold Binary64.ReadsBack at h
  unfold Binary64.reread
  rw [h]

theorem Binary64.ReadsBack.reread_eq {x : Binary64} (h : x.ReadsBack) : x.reread = x.shown := by
  unfold ReadsBack at h
  rwa [readFloat_floatText, Except.ok.injEq] at h

end BenchSweep
