import BenchSweep.Proofs.Decimal

/-! Values of bare texts. Without the blanks at its ends a text is an integer of 64 bits, else a finite
float, else a truth value, else itself, and the text of a value denotes the same value again. -/
set_option autoImplicit false

namespace BenchSweep

namespace Value

open Decimal

/-! ## The four kinds of texts -/

/-- The value that a text without blanks at its ends denotes. -/
inductive Denotes (t : List Char) : Value → Prop
  | integer {n : Int64} (h : IntegerText t n.toInt) : Denotes t (.integer n)
  | float {x : Binary64} (hint : ∀ n : Int64, ¬IntegerText t n.toInt) (h : FloatText t x)
      (hx : x.isFinite = true) : Denotes t (.float x)
  | bool {b : Bool} (h : t = (boolText b).toList) : Denotes t (.bool b)
  | text (hint : ∀ n : Int64, ¬IntegerText t n.toInt)
      (hfloat : ∀ x, FloatText t x → x.isFinite = false)
      (hbool : ∀ b, t ≠ (boolText b).toList) : Denotes t (.text (String.ofList t))

variable {t : List Char} {v w : Value}

theorem integer?_eq_some_iff :
    integer? t = some v ↔ ∃ n : Int64, IntegerText t n.toInt ∧ v = .integer n := by
  have hread : ∀ n : Int64, readInt64 t = .ok n.toInt ↔ IntegerText t n.toInt := fun n => by
    rw [readInt64_eq_ok_iff, DenotesInt64, and_iff_left ⟨n.le_toInt, n.toInt_lt⟩]
  unfold integer?
  split
  · rename_i n hn
    obtain ⟨-, hl, hu⟩ := readInt64_eq_ok_iff.1 hn
    have hn' : (Int64.ofInt n).toInt = n := Int64.toInt_ofInt_of_le hl hu
    rw [Option.some.injEq]
    constructor
    · rintro rfl
      exact ⟨Int64.ofInt n, (hread _).1 (hn'.symm ▸ hn), rfl⟩
    · rintro ⟨m, hm, rfl⟩
      rw [← hread, hn, Except.ok.injEq] at hm
      rw [hm, Int64.ofInt_toInt]
  · rename_i e he
    simp only [← hread, he]
    simp

theorem float?_eq_some_iff :
    float? t = some v ↔ ∃ x, FloatText t x ∧ x.isFinite = true ∧ v = .float x := by
  simp only [← readFloat_eq_ok_iff]
  unfold float?
  cases readFloat t with
  | error e => simp
  | ok x =>
    dsimp only
    by_cases hx : x.isFinite = true
    · rw [if_pos hx, Option.some.injEq]
      constructor
      · rintro rfl
        exact ⟨x, rfl, hx, rfl⟩
      · rintro ⟨y, hy, -, rfl⟩
        rw [Except.ok.inj hy]
    · rw [if_neg hx]
      constructor
      · exact nofun
      · rintro ⟨y, hy, hfinite, -⟩
        exact (hx (Except.ok.inj hy ▸ hfinite)).elim

theorem bool?_eq_some_iff : bool? t = some v ↔ ∃ b, t = (boolText b).toList ∧ v = .bool b := by
  rw [Bool.exists_bool]
  unfold bool? boolText
  split
  · rename_i h
    subst h
    simp [eq_comm]
  split
  · rename_i h
    subst h
    simp [eq_comm]
  · rename_i htrue hfalse
    simp only [Bool.false_eq_true, if_false, if_true]
    simp only [htrue, hfalse]
    simp

theorem not_number_boolText (b : Bool) : (∀ n : Int64, ¬IntegerText (boolText b).toList n.toInt) ∧
    ∀ x, ¬FloatText (boolText b).toList x := by
  have hint : readInt64 (boolText b).toList = .error .invalidDigit := by
    cases b <;> decide +kernel
  have hfloat : readFloat (boolText b).toList = .error .invalid := by
    cases b <;> decide +kernel
  refine ⟨fun n h => ?_, fun x h => ?_⟩
  · rw [readInt64_eq_ok_iff.2 ⟨h, n.le_toInt, n.toInt_lt⟩] at hint
    cases hint
  · rw [readFloat_eq_ok_iff.2 h] at hfloat
    cases hfloat

theorem denotes_integer_iff {n : Int64} : Denotes t (.integer n) ↔ IntegerText t n.toInt := by
  constructor
  · intro h
    cases h with
    | integer h => exact h
  · exact .integer

theorem denotes_float_iff {x : Binary64} : Denotes t (.float x) ↔
    (∀ n : Int64, ¬IntegerText t n.toInt) ∧ FloatText t x ∧ x.isFinite = true := by
  constructor
  · intro h
    cases h with
    | float hint h hx => exact ⟨hint, h, hx⟩
  · rintro ⟨hint, h, hx⟩
    exact .float hint h hx

theorem denotes_bool_iff {b : Bool} : Denotes t (.bool b) ↔ t = (boolText b).toList := by
  constructor
  · intro h
    cases h with
    | bool h => exact h
  · exact .bool

theorem denotes_text_iff {u : String} : Denotes t (.text u) ↔
    (∀ n : Int64, ¬IntegerText t n.toInt) ∧ (∀ x, FloatText t x → x.isFinite = false) ∧
      (∀ b, t ≠ (boolText b).toList) ∧ u = String.ofList t := by
  constructor
  · intro h
    cases h with
    | text hint hfloat hbool => exact ⟨hint, hfloat, hbool, rfl⟩
  · rintro ⟨hint, hfloat, hbool, rfl⟩
    exact .text hint hfloat hbool

theorem exists_denotes (t : List Char) : ∃ v, Denotes t v := by
  by_cases hint : ∃ n : Int64, IntegerText t n.toInt
  · obtain ⟨n, hn⟩ := hint
    exact ⟨_, .integer hn⟩
  have hint := not_exists.1 hint
  by_cases hfloat : ∃ x, FloatText t x ∧ x.isFinite = true
  · obtain ⟨x, hx, hfinite⟩ := hfloat
    exact ⟨_, .float hint hx hfinite⟩
  by_cases hbool : ∃ b, t = (boolText b).toList
  · obtain ⟨b, hb⟩ := hbool
    exact ⟨_, .bool hb⟩
  · exact ⟨_, .text hint (fun x hx => Bool.eq_false_iff.2 fun hfinite => hfloat ⟨x, hx, hfinite⟩)
      (not_exists.1 hbool)⟩

/-- Reading a text gives the value that it denotes. -/
theorem Denotes.ofText_eq {raw : String} (h : Denotes (Text.trim raw.toList) v) :
    ofText raw = v := by
  unfold ofText
  dsimp only
  generalize Text.trim raw.toList = t at h
  have hinteger : (∀ n : Int64, ¬IntegerText t n.toInt) → integer? t = none := fun h =>
    Option.eq_none_iff_forall_ne_some.2 fun v hv => by
      obtain ⟨n, hn, -⟩ := integer?_eq_some_iff.1 hv
      exact h n hn
  have hfloat : (∀ x, FloatText t x → x.isFinite = false) → float? t = none := fun h =>
    Option.eq_none_iff_forall_ne_some.2 fun v hv => by
      obtain ⟨x, hx, hfinite, -⟩ := float?_eq_some_iff.1 hv
      rw [h x hx] at hfinite
      cases hfinite
  have hbool : (∀ b, t ≠ (boolText b).toList) → bool? t = none := fun h =>
    Option.eq_none_iff_forall_ne_some.2 fun v hv => by
      obtain ⟨b, hb, -⟩ := bool?_eq_some_iff.1 hv
      exact h b hb
  cases h with
  | integer h =>
    rw [integer?_eq_some_iff.2 ⟨_, h, rfl⟩]
    rfl
  | float hi h hx =>
    rw [hinteger hi, float?_eq_some_iff.2 ⟨_, h, hx, rfl⟩]
    rfl
  | bool h =>
    subst h
    obtain ⟨hi, hf⟩ := not_number_boolText _
    rw [hinteger hi, hfloat fun x hx => (hf x hx).elim, bool?_eq_some_iff.2 ⟨_, rfl, rfl⟩]
    rfl
  | text hi hf hb =>
    rw [hinteger hi, hfloat hf, hbool hb]
    rfl

theorem ofText_eq_iff {raw : String} : ofText raw = v ↔ Denotes (Text.trim raw.toList) v := by
  refine ⟨fun h => ?_, Denotes.ofText_eq⟩
  obtain ⟨w, hw⟩ := exists_denotes (Text.trim raw.toList)
  rwa [← h, hw.ofText_eq]

theorem denotes_ofText (s : List Char) : Denotes (Text.trim s) (ofText (String.ofList s)) := by
  have h : Denotes (Text.trim (String.ofList s).toList) (ofText (String.ofList s)) :=
    ofText_eq_iff.1 rfl
  rwa [String.toList_ofList] at h

theorem denotes_nil : Denotes [] (.text "") := by
  refine .text (fun n h => h.ne_nil rfl) (fun x h => ?_) fun b => ?_
  · rw [← readFloat_eq_ok_iff] at h
    cases h
  · cases b
    · decide
    · decide

/-! ## The texts of values -/

theorem not_integerText_floatText {x : Binary64} (hx : x.isFinite = true) (n : Int) :
    ¬IntegerText (floatText x).toList n := by
  intro h
  obtain ⟨c, hc, hcases⟩ := exists_mark_floatText hx
  rcases hcases with rfl | rfl
  · exact absurd (h.mem _ hc) (by decide)
  · exact absurd (h.mem _ hc) (by decide)

theorem Denotes.toText (h : Denotes t v) : Denotes v.toText.toList v := by
  cases h with
  | @integer n h =>
    rw [Value.toText, String.toList_ofList]
    exact .integer (integerText_integer _)
  | @float x _ _ hx =>
    have hread := readFloat_eq_ok_iff.1 x.readsBack
    rw [Binary64.shown_of_isFinite hx] at hread
    exact .float (fun n => not_integerText_floatText hx n.toInt) hread hx
  | bool => exact .bool rfl
  | text hi hf hb =>
    rw [Value.toText, String.toList_ofList]
    exact .text hi hf hb

theorem Denotes.trim_toText (h : Denotes t v) (ht : Text.trim t = t) :
    Text.trim v.toText.toList = v.toText.toList := by
  cases h with
  | integer =>
    rw [Value.toText, String.toList_ofList]
    exact Text.trim_of_forall_not (solid_integer _)
  | float => exact trim_floatText _
  | @bool b =>
    cases b
    · decide
    · decide
  | text =>
    rw [Value.toText, String.toList_ofList]
    exact ht

/-- The text of a value that was read is read as the same value. -/
theorem ofText_toText (raw : String) : ofText (ofText raw).toText = ofText raw := by
  have h : Denotes (Text.trim raw.toList) (ofText raw) := ofText_eq_iff.1 rfl
  rw [ofText_eq_iff, h.trim_toText (Text.trim_trim _)]
  exact h.toText

/-! ## Numbers that are not finite -/

/-- An integer of 64 bits is not read as an infinity or a NaN. -/
theorem isFinite_of_integerText {n : Int64} {x : Binary64} (hn : IntegerText t n.toInt)
    (hx : FloatText t x) : x.isFinite = true := by
  obtain ⟨negative, m, htext, hnearest⟩ := hn.exists_floatText
  have hle : n.toInt.natAbs ≤ 2 ^ 63 := by
    have hl := n.le_toInt
    have hu := n.toInt_lt
    omega
  rw [← readFloat_eq_ok_iff] at hx htext
  obtain rfl := Except.ok.inj (hx.symm.trans htext)
  exact Binary64.isFinite_ofMagnitude negative
    (hnearest.lt_infinity (Nat.cast_nonneg _) (by exact_mod_cast hle))

end Value

/-! ## Bare texts -/

/-- Whether the text denotes some integer of 64 bits with sign. -/
def Decimal.IsInt64 (t : List Char) : Prop := ∃ n, DenotesInt64 t n

/-- Whether the text denotes some float that is finite. -/
def Decimal.IsFiniteFloat (t : List Char) : Prop := ∃ x, FloatText t x ∧ x.isFinite = true

theorem Decimal.isInt64_iff {t : List Char} :
    IsInt64 t ↔ ∃ n : Int64, IntegerText t n.toInt := by
  constructor
  · rintro ⟨n, hn, hl, hu⟩
    refine ⟨Int64.ofInt n, ?_⟩
    rwa [Int64.toInt_ofInt_of_le hl hu]
  · rintro ⟨n, hn⟩
    exact ⟨n.toInt, hn, n.le_toInt, n.toInt_lt⟩

theorem Decimal.not_isFiniteFloat_iff {t : List Char} :
    ¬IsFiniteFloat t ↔ ∀ x, FloatText t x → x.isFinite = false := by
  simp [IsFiniteFloat]

/-- Without the blanks at its ends a text is read as an integer exactly if it is a sign, if there is one,
and digits that denote an integer of 64 bits with sign; else as a float exactly if it is a float and finite;
as a truth value exactly if it is the word for it; and else as itself. So infinities, NaNs and floats beyond
the finite ones stay texts. The text of the value that is read is read as the same value. -/
theorem bare_values_survive_printing {raw : String} {t : List Char}
    (ht : Text.trim raw.toList = t) :
    (∀ n : Int, (∃ m : Int64, m.toInt = n ∧ Value.ofText raw = .integer m) ↔
      Decimal.IntegerText t n ∧ -2 ^ 63 ≤ n ∧ n < 2 ^ 63) ∧
    (∀ x, Value.ofText raw = .float x ↔
      ¬Decimal.IsInt64 t ∧ Decimal.FloatText t x ∧ x.isFinite = true) ∧
    (∀ b, Value.ofText raw = .bool b ↔ t = (boolText b).toList) ∧
    (∀ u, Value.ofText raw = .text u ↔ ¬Decimal.IsInt64 t ∧ ¬Decimal.IsFiniteFloat t ∧
      (∀ b, t ≠ (boolText b).toList) ∧ u = String.ofList t) ∧
    (∀ x, Decimal.FloatText t x → x.isFinite = false →
      Value.ofText raw = .text (String.ofList t)) ∧
    Value.ofText (Value.ofText raw).toText = Value.ofText raw := by
  have hdenotes : ∀ {v}, Value.ofText raw = v ↔ Value.Denotes t v := ht ▸ Value.ofText_eq_iff
  refine ⟨fun n => ?_, fun x => ?_, fun b => ?_, fun u => ?_, fun x hx hfinite => ?_,
    Value.ofText_toText raw⟩
  · simp only [hdenotes, Value.denotes_integer_iff]
    constructor
    · rintro ⟨m, rfl, h⟩
      exact ⟨h, m.le_toInt, m.toInt_lt⟩
    · rintro ⟨h, hl, hu⟩
      have hn : (Int64.ofInt n).toInt = n := Int64.toInt_ofInt_of_le hl hu
      exact ⟨Int64.ofInt n, hn, hn.symm ▸ h⟩
  · rw [hdenotes, Value.denotes_float_iff, Decimal.isInt64_iff, not_exists]
  · rw [hdenotes, Value.denotes_bool_iff]
  · rw [hdenotes, Value.denotes_text_iff, Decimal.isInt64_iff, not_exists,
      Decimal.not_isFiniteFloat_iff]
  · refine hdenotes.2 (.text (fun n hn => ?_) (fun y hy => ?_) fun b hb => ?_)
    · rw [Value.isFinite_of_integerText hn hx] at hfinite
      cases hfinite
    · rw [← Decimal.readFloat_eq_ok_iff] at hx hy
      rwa [← Except.ok.inj (hx.symm.trans hy)]
    · rw [hb] at hx
      exact (Value.not_number_boolText b).2 x hx

/-- An integer that is too large is a float, and a float that is too large is a text. -/
theorem bare_values_survive_printing_of_overflow :
    let large : Binary64 := ⟨0x43E0000000000000⟩
    Value.ofText " 9223372036854775808" = .float large ∧ (Value.float large).toText =
      "9.223372036854776e18" ∧ Value.ofText "9.223372036854776e18" = .float large ∧
      Value.ofText "-1e400\n" = .text "-1e400" := by
  intro large
  have hlarge : Value.ofText " 9223372036854775808" = .float large := by decide +kernel
  have htext : (Value.float large).toText = "9.223372036854776e18" := by decide +kernel
  have hinfinite : Decimal.FloatText "-1e400".toList ⟨0xFFF0000000000000⟩ :=
    Decimal.readFloat_eq_ok_iff.1 (by decide +kernel)
  have htrim : Text.trim "-1e400\n".toList = "-1e400".toList := by decide +kernel
  obtain ⟨-, -, -, -, -, hback⟩ := @bare_values_survive_printing " 9223372036854775808" _ rfl
  obtain ⟨-, -, -, -, hoverflow, -⟩ := bare_values_survive_printing htrim
  refine ⟨hlarge, htext, ?_, ?_⟩
  · rwa [hlarge, htext] at hback
  · rw [hoverflow _ hinfinite (by decide), String.ofList_toList]

end BenchSweep
