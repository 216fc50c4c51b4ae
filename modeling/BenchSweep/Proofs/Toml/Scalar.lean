import BenchSweep.Proofs.Decimal
import BenchSweep.Proofs.Toml.Text
import BenchSweep.Toml.Document

/-! Values of a document are read back. A value without quotes is one word to the end of its line, and
the word of a number or a truth value is no word of another kind; of a float it shows all that its text
shows. -/
set_option autoImplicit false

namespace BenchSweep.Toml

open Decimal

/-! ## Words -/

theorem takeWord_append {w : List Char} (h : ∀ c ∈ w, isWordChar c = true) (rest : List Char) :
    takeWord (w ++ '\n' :: rest) = (w, '\n' :: rest) := by
  have hend : ∀ c ∈ ('\n' :: rest).head?, isWordChar c = false := by
    rintro c ⟨⟩
    decide
  have hword := Text.takeWhile_append_of_head h hend
  have htail := Text.dropWhile_append_of_head h hend
  unfold takeWord
  dsimp only
  rw [hword, htail]
  split
  · rename_i heq
    cases heq
  · rfl

/-- What starts with neither a quote nor an opening bracket is read as a word. -/
theorem value?_cons {x : Char} (hx : x ≠ '[' ∧ x ≠ '\x7b' ∧ x ≠ '"' ∧ x ≠ '\'') (level : Nat)
    (t : List Char) : value? level (x :: t) =
      (word? (takeWord (x :: t)).1).map (·, (takeWord (x :: t)).2) := by
  obtain ⟨hsquare, hcurly, hdouble, hsingle⟩ := hx
  rw [value?.eq_def]
  split <;> rename_i heq
  · exact (hsquare (List.cons.inj heq).1).elim
  · exact (hcurly (List.cons.inj heq).1).elim
  · exact (hdouble (List.cons.inj heq).1).elim
  · exact (hsingle (List.cons.inj heq).1).elim
  · rfl

theorem ne_of_isWordChar {x : Char} (h : isWordChar x = true) :
    x ≠ '[' ∧ x ≠ '\x7b' ∧ x ≠ '"' ∧ x ≠ '\'' := by
  have hne : ∀ c, isWordChar c = false → x ≠ c := by
    rintro c hc rfl
    rw [h] at hc
    cases hc
  exact ⟨hne _ (by decide), hne _ (by decide), hne _ (by decide), hne _ (by decide)⟩

/-- A word to the end of its line is read as its value. -/
theorem value?_word {w : List Char} {v : Value} (hne : w ≠ []) (h : ∀ c ∈ w, isWordChar c = true)
    (hv : word? w = some v) (level : Nat) (rest : List Char) :
    value? level (w ++ '\n' :: rest) = some (v, '\n' :: rest) := by
  have hword := takeWord_append h rest
  obtain ⟨x, w, rfl⟩ := List.exists_cons_of_ne_nil hne
  rw [List.cons_append] at hword ⊢
  rw [value?_cons (ne_of_isWordChar (h x List.mem_cons_self)), hword]
  dsimp only
  rw [hv, Option.map_some]

/-- A text to the end of its line is read as it is. -/
theorem value?_text (s : String) (level : Nat) (rest : List Char) :
    value? level (writeText s.toList ++ '\n' :: rest) = some (.text s, '\n' :: rest) := by
  have hread : string? (writeText s.toList ++ '\n' :: rest) = some (s.toList, '\n' :: rest) :=
    string?_writeText (by simp) (by simp)
  have hquoted : ∀ q t, q = '"' ∨ q = '\'' → value? level (q :: t) =
      (string? (q :: t)).map fun r => (.text (String.ofList r.1), r.2) := by
    rintro q t (rfl | rfl)
    · rw [value?.eq_def]
      cases level <;> rfl
    · rw [value?.eq_def]
      cases level <;> rfl
  obtain ⟨q, t, ht, hq⟩ : ∃ q t, writeText s.toList = q :: t ∧ (q = '"' ∨ q = '\'') := by
    obtain ⟨t, ht | ht⟩ := exists_quote_writeText s.toList
    · exact ⟨_, t, ht, .inl rfl⟩
    · exact ⟨_, t, ht, .inr rfl⟩
  rw [ht, List.cons_append] at hread ⊢
  rw [hquoted q _ hq, hread, Option.map_some]
  dsimp only
  rw [String.ofList_toList]

/-! ## Whole numbers -/

/-- Digits of a whole number: at least one, and no zeros before others. -/
structure Whole (ds : List Char) : Prop where
  allDigits : AllDigits ds
  ne_nil : ds ≠ []
  zero : ds.head? = some '0' → ds = ['0']

theorem whole_digits (n : Nat) : Whole (digits n) where
  allDigits := allDigits_digits n
  ne_nil := digits_ne_nil n
  zero h := by
    by_cases hn : n = 0
    · subst hn
      rfl
    · exact (head?_digits_ne_zero hn h).elim

theorem ne_underscore_of_isDigit {c : Char} (h : isDigit c = true) : c ≠ '_' := by
  rintro rfl
  exact absurd h (by decide)

theorem digitRun?_eq_some {ds : List Char} (hne : ds ≠ []) (h : AllDigits ds) :
    digitRun? isDigit ds = some ds := by
  induction ds with
  | nil => exact (hne rfl).elim
  | cons c ds ih =>
    obtain ⟨hc, hds⟩ := allDigits_cons_iff.1 h
    cases ds with
    | nil => rw [digitRun?, if_pos hc]
    | cons d ds =>
      have hd := ne_underscore_of_isDigit (allDigits_cons_iff.1 hds).1
      have hstep : digitRun? isDigit (c :: d :: ds) =
          if isDigit c then (digitRun? isDigit (d :: ds)).map (c :: ·) else none := by
        rw [digitRun?.eq_def]
        split <;> simp_all
      rw [hstep, if_pos hc, ih (List.cons_ne_nil d ds) hds, Option.map_some]

/-- What is neither a digit nor an underscore stands in no whole number. -/
theorem digitRun?_eq_none {s : List Char} {c : Char} (hc : isDigit c = false) (hne : c ≠ '_')
    (h : c ∈ s) : digitRun? isDigit s = none := by
  fun_induction digitRun? isDigit s with
  | case1 => cases h
  | case2 d hd =>
    obtain rfl := List.mem_singleton.1 h
    rw [hc] at hd
    cases hd
  | case3 => rfl
  | case4 d rest hd ih =>
    have hmem : c ∈ rest := by
      rcases List.mem_cons.1 h with rfl | h
      · rw [hc] at hd
        cases hd
      · exact (List.mem_cons.1 h).resolve_left hne
    rw [ih hmem, Option.map_none]
  | case5 => rfl
  | case6 d rest _ _ hd ih =>
    have hmem : c ∈ rest := by
      rcases List.mem_cons.1 h with rfl | h
      · rw [hc] at hd
        cases hd
      · exact h
    rw [ih hmem, Option.map_none]
  | case7 => rfl

theorem Whole.decimalRun? {ds : List Char} (h : Whole ds) : decimalRun? ds = some ds := by
  unfold Toml.decimalRun?
  rw [digitRun?_eq_some h.ne_nil h.allDigits]
  split
  · rename_i heq
    obtain rfl := Option.some.inj heq
    cases h.zero rfl
  · rfl

theorem decimalRun?_eq_none {s : List Char} (h : '.' ∈ s) : decimalRun? s = none := by
  unfold decimalRun?
  rw [digitRun?_eq_none (by decide) (by decide) h]

/-- A minus or nothing. -/
def IsSign (s : List Char) : Prop := s = [] ∨ s = ['-']

theorem Whole.takeSign {sign ds : List Char} (hsign : IsSign sign) (h : Whole ds)
    (rest : List Char) : takeSign (sign ++ (ds ++ rest)) = (sign, ds ++ rest) := by
  rcases hsign with rfl | rfl
  · obtain ⟨d, ds, rfl⟩ := List.exists_cons_of_ne_nil h.ne_nil
    obtain ⟨hplus, hminus⟩ := h.allDigits.head_ne_sign
    rw [List.nil_append, List.cons_append, takeSign.eq_def]
    split <;> simp_all
  · rfl

/-- A number in base ten is not taken for one in another base. -/
theorem Whole.integer? {sign ds : List Char} (hsign : IsSign sign) (h : Whole ds) (rest : List Char)
    (hrest : ∀ c ∈ rest.head?, c = '.') : integer? (sign ++ (ds ++ rest)) =
      (Toml.decimalRun? (ds ++ rest)).bind fun ds =>
        match readInt64 (sign ++ ds) with
        | .ok n => some (.integer (Int64.ofInt n))
        | .error _ => none := by
  have htake := h.takeSign hsign rest
  have hradix : ∀ c t, sign ++ (ds ++ rest) = '0' :: c :: t → c = '.' := by
    intro c t heq
    rcases hsign with rfl | rfl
    · obtain ⟨d, ds, rfl⟩ := List.exists_cons_of_ne_nil h.ne_nil
      obtain ⟨rfl, heq⟩ := List.cons.inj heq
      have hzero := h.zero rfl
      rw [hzero, List.singleton_append] at heq
      exact hrest c (by rw [(List.cons.inj heq).2, List.head?_cons, Option.mem_some])
    · cases (List.cons.inj heq).1
  generalize sign ++ (ds ++ rest) = s at htake hradix ⊢
  rw [Toml.integer?.eq_def]
  split
  · exact absurd (hradix 'x' _ rfl) (by decide)
  · exact absurd (hradix 'o' _ rfl) (by decide)
  · exact absurd (hradix 'b' _ rfl) (by decide)
  · rw [htake]
    rfl

/-! ## The words of integers -/

theorem isWordChar_of_isDigit {c : Char} (h : isDigit c = true) : isWordChar c = true := by
  rw [isDigit_eq] at h
  unfold isWordChar Char.isAlphanum
  rw [h, Bool.or_true]
  rfl

theorem IsSign.isWordChar {sign : List Char} (h : IsSign sign) :
    ∀ c ∈ sign, isWordChar c = true := by
  rcases h with rfl | rfl
  · exact nofun
  · exact List.all_eq_true.1 (by decide)

theorem exists_sign_integer (n : Int) :
    ∃ sign, IsSign sign ∧ Decimal.integer n = sign ++ digits n.natAbs := by
  unfold Decimal.integer
  split
  · exact ⟨['-'], .inr rfl, rfl⟩
  · exact ⟨[], .inl rfl, rfl⟩

/-- A number is no word of a truth value. -/
theorem word?_number {sign ds : List Char} (hsign : IsSign sign) (h : Whole ds) (rest : List Char) :
    word? (sign ++ (ds ++ rest)) = (((integer? (sign ++ (ds ++ rest)) <|>
      digitsFloat? (sign ++ (ds ++ rest))) <|> namedFloat? (sign ++ (ds ++ rest))) <|>
      moment? (sign ++ (ds ++ rest))) := by
  have hhead : ∀ c t, sign ++ (ds ++ rest) = c :: t → c = '-' ∨ isDigit c = true := by
    intro c t heq
    rcases hsign with rfl | rfl
    · obtain ⟨d, ds, rfl⟩ := List.exists_cons_of_ne_nil h.ne_nil
      obtain ⟨rfl, -⟩ := List.cons.inj heq
      exact .inr (h.allDigits _ List.mem_cons_self)
    · exact .inl (List.cons.inj heq).1.symm
  have htrue : sign ++ (ds ++ rest) ≠ "true".toList := fun heq =>
    absurd (hhead 't' _ heq) (by decide)
  have hfalse : sign ++ (ds ++ rest) ≠ "false".toList := fun heq =>
    absurd (hhead 'f' _ heq) (by decide)
  unfold word?
  rw [if_neg htrue, if_neg hfalse]

theorem word?_integer {n : Int} (h : -2 ^ 63 ≤ n ∧ n < 2 ^ 63) :
    word? (Decimal.integer n) = some (.integer (Int64.ofInt n)) := by
  have hread : readInt64 (Decimal.integer n) = .ok n :=
    readInt64_eq_ok_iff.2 ⟨integerText_integer n, h⟩
  obtain ⟨sign, hsign, hn⟩ := exists_sign_integer n
  have hwhole := whole_digits n.natAbs
  have hword := word?_number hsign hwhole []
  have hinteger := hwhole.integer? hsign [] nofun
  rw [hn] at hread ⊢
  rw [List.append_nil] at hword hinteger
  rw [hword, hinteger, hwhole.decimalRun?, Option.bind_some, hread]
  rfl

/-! ## The words of floats -/

theorem Whole.of_zeros {n : Nat} (hn : n ≠ 0) (zeros : Nat) :
    Whole (digits n ++ List.replicate zeros '0') where
  allDigits := (allDigits_digits n).append (allDigits_zeros zeros)
  ne_nil := List.append_ne_nil_of_left_ne_nil (digits_ne_nil n) _
  zero h := by
    rw [List.head?_append_of_ne_nil _ (digits_ne_nil n)] at h
    exact (head?_digits_ne_zero hn h).elim

theorem Whole.of_take {n p : Nat} (hn : n ≠ 0) (hp : p ≠ 0) : Whole ((digits n).take p) where
  allDigits := fun c hc => allDigits_digits n c (List.mem_of_mem_take hc)
  ne_nil h := (List.take_eq_nil_iff.1 h).elim hp (digits_ne_nil n)
  zero h := by
    rw [List.head?_take, if_neg hp] at h
    exact (head?_digits_ne_zero hn h).elim

/-- A decimal other than zero stands in digits on both sides of a point. -/
theorem exists_digits_positional {s : Scientific} (hs : s.coefficient ≠ 0) :
    ∃ ds fs, s.positional = ds ++ '.' :: fs ∧ Whole ds ∧ AllDigits fs ∧ fs ≠ [] := by
  have hd := allDigits_digits s.coefficient
  have hne := digits_ne_nil s.coefficient
  unfold Scientific.positional
  dsimp only
  split
  · exact ⟨['0'], _, rfl, whole_digits 0, (allDigits_zeros _).append hd,
      List.append_ne_nil_of_right_ne_nil _ hne⟩
  split
  · exact ⟨_, ['0'], rfl, .of_zeros hs _, allDigits_zeros 1, List.cons_ne_nil _ _⟩
  · refine ⟨_, _, rfl, .of_take hs (by omega), fun c hc => hd c (List.mem_of_mem_drop hc), ?_⟩
    rw [Ne, List.drop_eq_nil_iff]
    omega

theorem coefficient_shortest_ne_zero {x : Binary64} (hx : x.isFinite = true)
    (hzero : x.isZero = false) : (shortest x).coefficient ≠ 0 := by
  intro h
  have hnearest := shortest_nearest hx hzero
  rw [Scientific.value, h, Nat.cast_zero, zero_mul] at hnearest
  exact beq_eq_false_iff_ne.1 hzero (hnearest.unique Binary64.nearest_zero)

/-- A finite float stands in digits on both sides of a point. -/
theorem exists_digits_write {x : Binary64} (hx : x.isFinite = true) :
    ∃ sign ds fs, (floatNotation.write x).toList = sign ++ (ds ++ '.' :: fs) ∧ IsSign sign ∧
      Whole ds ∧ AllDigits fs ∧ fs ≠ [] := by
  obtain ⟨ds, fs, htext, hds, hfs⟩ : ∃ ds fs, floatNotation.unsigned x = ds ++ '.' :: fs ∧
      Whole ds ∧ AllDigits fs ∧ fs ≠ [] := by
    unfold FloatStyle.unsigned
    rw [hx, Bool.not_true, if_neg Bool.false_ne_true]
    split
    · exact ⟨['0'], ['0'], rfl, whole_digits 0, allDigits_zeros 1, List.cons_ne_nil _ _⟩
    · rename_i hzero
      exact exists_digits_positional (coefficient_shortest_ne_zero hx (Bool.eq_false_iff.2 hzero))
  unfold FloatStyle.write
  rw [Binary64.isNaN_of_isFinite hx, if_neg Bool.false_ne_true, String.toList_ofList, htext]
  split
  · exact ⟨['-'], ds, fs, rfl, .inr rfl, hds, hfs⟩
  · exact ⟨[], ds, fs, rfl, .inl rfl, hds, hfs⟩

theorem fractionAndPower?_digits {fs : List Char} (hfs : AllDigits fs) (hne : fs ≠ []) :
    fractionAndPower? ('.' :: fs) = some ('.' :: fs) := by
  have hmark : ∀ c ∈ fs, (!(decide (c = 'e') || decide (c = 'E'))) = true := by
    intro c hc
    have he : c ≠ 'e' ∧ c ≠ 'E' :=
      ⟨fun e => absurd (e ▸ hfs c hc) (by decide), fun e => absurd (e ▸ hfs c hc) (by decide)⟩
    simp [he]
  have htake : fs.takeWhile (fun c => !(decide (c = 'e') || decide (c = 'E'))) = fs :=
    List.takeWhile_eq_self_iff.2 hmark
  have hdrop : fs.dropWhile (fun c => !(decide (c = 'e') || decide (c = 'E'))) = [] :=
    List.dropWhile_eq_nil_iff.2 hmark
  unfold fractionAndPower?
  simp only [htake, hdrop, digitRun?_eq_some hne hfs, power?, Option.bind_eq_bind, Option.bind_some,
    Option.pure_def, List.append_nil]

/-- The digits of a finite float are read as what they denote. -/
theorem digitsFloat?_eq_some {sign ds fs : List Char} {x : Binary64} (hsign : IsSign sign)
    (hds : Whole ds) (hfs : AllDigits fs) (hne : fs ≠ []) (hx : x.isFinite = true)
    (h : FloatText (sign ++ (ds ++ '.' :: fs)) x) :
    digitsFloat? (sign ++ (ds ++ '.' :: fs)) = some (.float x) := by
  have hinner : ∀ c ∈ ds, (decide (c = '_') || Decimal.isDigit c) = true := by
    intro c hc
    rw [hds.allDigits c hc, Bool.or_true]
  have hpoint : ∀ c ∈ ('.' :: fs).head?, (decide (c = '_') || Decimal.isDigit c) = false := by
    rintro c ⟨⟩
    decide
  have htake := Text.takeWhile_append_of_head hinner hpoint
  have hdrop := Text.dropWhile_append_of_head hinner hpoint
  have hread := readFloat_eq_ok_iff.2 h
  rw [← List.append_assoc] at hread
  have hfinite : x ≠ Binary64.ofMagnitude false Binary64.infinity := by
    rintro rfl
    exact absurd hx (by decide)
  unfold digitsFloat?
  rw [hds.takeSign hsign]
  simp only [htake, hdrop, hds.decimalRun?, fractionAndPower?_digits hfs hne, Option.bind_eq_bind,
    Option.bind_some, hread, hfinite, if_false]

theorem word?_finite {x : Binary64} (hx : x.isFinite = true) :
    word? (floatNotation.write x).toList = some (.float x) := by
  have htext := floatText_write floatNotation (Binary64.isNaN_of_isFinite hx)
  obtain ⟨sign, ds, fs, heq, hsign, hds, hfs, hne⟩ := exists_digits_write hx
  have hpoint : '.' ∈ ds ++ '.' :: fs := by simp
  rw [heq] at htext ⊢
  rw [word?_number hsign hds, hds.integer? hsign _ (by simp), decimalRun?_eq_none hpoint,
    digitsFloat?_eq_some hsign hds hfs hne hx htext]
  rfl

/-- The numbers that are not finite have names. -/
theorem write_of_not_isFinite {x : Binary64} (hx : x.isFinite = false) :
    (floatNotation.write x = "nan" ∧ x.shown = Binary64.nan false) ∨
      ∃ sign, IsSign sign ∧ (floatNotation.write x).toList = sign ++ "inf".toList ∧
        x.shown = Binary64.ofMagnitude (decide (sign = ['-'])) Binary64.infinity := by
  unfold FloatStyle.write Binary64.shown
  split
  · exact .inl ⟨rfl, rfl⟩
  · rename_i hnan
    have hname : floatNotation.unsigned x = "inf".toList := by
      unfold FloatStyle.unsigned
      rw [hx]
      rfl
    have hmagnitude : x.magnitude = Binary64.infinity := by
      rw [Binary64.isFinite, decide_eq_false_iff_not] at hx
      rw [Binary64.isNaN, decide_eq_true_iff] at hnan
      omega
    have hsame := x.ofMagnitude_magnitude
    rw [hmagnitude] at hsame
    rw [String.toList_ofList, hname]
    cases hnegative : x.negative with
    | true =>
      rw [hnegative] at hsame
      exact .inr ⟨['-'], .inr rfl, rfl, hsame.symm⟩
    | false =>
      rw [hnegative] at hsame
      exact .inr ⟨[], .inl rfl, rfl, hsame.symm⟩

/-- The word of a float is read as all that it shows. -/
theorem word?_float (x : Binary64) :
    word? (floatNotation.write x).toList = some (.float x.shown) := by
  cases hx : x.isFinite with
  | true => rw [word?_finite hx, Binary64.shown_of_isFinite hx]
  | false =>
    obtain ⟨htext, hshown⟩ | ⟨sign, hsign, htext, hshown⟩ := write_of_not_isFinite hx
    · rw [htext, hshown]
      rfl
    · rw [htext, hshown]
      rcases hsign with rfl | rfl <;> rfl

theorem isWordChar_write (x : Binary64) :
    ∀ c ∈ (floatNotation.write x).toList, isWordChar c = true := by
  cases hx : x.isFinite with
  | true =>
    obtain ⟨sign, ds, fs, htext, hsign, hds, hfs, -⟩ := exists_digits_write hx
    rw [htext]
    intro c hc
    rcases List.mem_append.1 hc with hc | hc
    · exact hsign.isWordChar c hc
    rcases List.mem_append.1 hc with hc | hc
    · exact isWordChar_of_isDigit (hds.allDigits c hc)
    rcases List.mem_cons.1 hc with rfl | hc
    · decide
    · exact isWordChar_of_isDigit (hfs c hc)
  | false =>
    obtain ⟨htext, -⟩ | ⟨sign, hsign, htext, -⟩ := write_of_not_isFinite hx
    · rw [htext]
      exact List.all_eq_true.1 (by decide)
    · rw [htext]
      intro c hc
      exact (List.mem_append.1 hc).elim (hsign.isWordChar c) (List.all_eq_true.1 (by decide) c)

/-! ## Values -/

/-- What a reader of a document finds in the place of a value. -/
def Scalar.value : Scalar → Value
  | .text s => .text s
  | .integer n => .integer (Int64.ofInt n)
  | .float x => .float x.shown
  | .bool b => .bool b

/-- A value that has a spelling is read from it. -/
theorem value?_write {v : Scalar} {t : List Char} (h : v.write = some t) (level : Nat)
    (rest : List Char) : value? level (t ++ '\n' :: rest) = some (v.value, '\n' :: rest) := by
  have hne : ∀ {t : List Char} {v : Value}, word? t = some v → t ≠ [] := by
    rintro t v hv rfl
    cases hv
  cases v with
  | text s =>
    obtain rfl := Option.some.inj h
    exact value?_text s level rest
  | integer n =>
    obtain ⟨hn, h⟩ := Option.ite_none_right_eq_some.1 h
    obtain rfl := Option.some.inj h
    have hword := word?_integer (n := n) hn
    refine value?_word (hne hword) (fun c hc => ?_) hword level rest
    rcases (integerText_integer n).mem c hc with rfl | rfl | hd
    · decide
    · decide
    · exact isWordChar_of_isDigit hd
  | float x =>
    obtain rfl := Option.some.inj h
    exact value?_word (hne (word?_float x)) (isWordChar_write x) (word?_float x) level rest
  | bool b =>
    obtain rfl := Option.some.inj h
    cases b with
    | true => exact value?_word (by decide) (List.all_eq_true.1 (by decide)) rfl level rest
    | false => exact value?_word (by decide) (List.all_eq_true.1 (by decide)) rfl level rest

end BenchSweep.Toml
