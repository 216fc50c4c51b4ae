import BenchSweep.Text.Utf8

/-! Text that was written as bytes is read back: every character is found again at the start of its
bytes, so a whole text is. -/
set_option autoImplicit false

namespace BenchSweep.Text.Utf8

/-! ## Bytes as numbers -/

theorem toNat_byte {n : Nat} (h : n < 256) : (UInt8.ofNat n).toNat = n := by
  rw [UInt8.toNat_ofNat']
  exact Nat.mod_eq_of_lt h

theorem isTail_iff (b : UInt8) : isTail b = true ↔ 0x80 ≤ b.toNat ∧ b.toNat ≤ 0xBF := by
  simp [isTail, UInt8.le_iff_toNat_le]

theorem opensThree_iff (a b : UInt8) :
    opensThree a b = true ↔ 0x80 ≤ b.toNat ∧ b.toNat ≤ 0xBF ∧
      (a.toNat = 0xE0 → 0xA0 ≤ b.toNat) ∧ (a.toNat = 0xED → b.toNat ≤ 0x9F) := by
  have h0 : a = 0xE0 ↔ a.toNat = 0xE0 := UInt8.toNat_inj.symm
  have h1 : a = 0xED ↔ a.toNat = 0xED := UInt8.toNat_inj.symm
  simp only [opensThree, h0, h1]
  split
  · simp [UInt8.le_iff_toNat_le, *]
    omega
  · split
    · simp [UInt8.le_iff_toNat_le, *]
      omega
    · simp [isTail_iff, *]

theorem opensFour_iff (a b : UInt8) :
    opensFour a b = true ↔ 0x80 ≤ b.toNat ∧ b.toNat ≤ 0xBF ∧
      (a.toNat = 0xF0 → 0x90 ≤ b.toNat) ∧ (a.toNat = 0xF4 → b.toNat ≤ 0x8F) := by
  have h0 : a = 0xF0 ↔ a.toNat = 0xF0 := UInt8.toNat_inj.symm
  have h1 : a = 0xF4 ↔ a.toNat = 0xF4 := UInt8.toNat_inj.symm
  simp only [opensFour, h0, h1]
  split
  · simp [UInt8.le_iff_toNat_le, *]
    omega
  · split
    · simp [UInt8.le_iff_toNat_le, *]
      omega
    · simp [isTail_iff, *]

/-! ## The character at the start -/

theorem next_one {a : UInt8} (h : a.toNat < 0x80) (rest : List UInt8) :
    next a rest = (some (Char.ofNat a.toNat), 1) := by
  have ha : a < 0x80 := UInt8.lt_iff_toNat_lt.2 h
  simp [next, ha]

theorem next_two {a b : UInt8} (ha : 0xC2 ≤ a.toNat) (ha' : a.toNat ≤ 0xDF) (hb : isTail b = true)
    (rest : List UInt8) :
    next a (b :: rest) = (some (assemble (a.toNat - 0xC0) [b]), 2) := by
  have h0 : ¬a < 0x80 := by
    rw [UInt8.lt_iff_toNat_lt]
    exact Nat.not_lt.2 (Nat.le_trans (by decide) ha)
  have h1 : 0xC2 ≤ a := UInt8.le_iff_toNat_le.2 ha
  have h2 : a ≤ 0xDF := UInt8.le_iff_toNat_le.2 ha'
  simp [next, h0, h1, h2, hb]

theorem next_three {a b c : UInt8} (ha : 0xE0 ≤ a.toNat) (ha' : a.toNat ≤ 0xEF)
    (hb : opensThree a b = true) (hc : isTail c = true) (rest : List UInt8) :
    next a (b :: c :: rest) = (some (assemble (a.toNat - 0xE0) [b, c]), 3) := by
  have h0 : ¬a < 0x80 := by
    rw [UInt8.lt_iff_toNat_lt]
    exact Nat.not_lt.2 (Nat.le_trans (by decide) ha)
  have h1 : ¬a ≤ 0xDF := by
    rw [UInt8.le_iff_toNat_le]
    exact Nat.not_le.2 (Nat.lt_of_lt_of_le (by decide) ha)
  have h2 : 0xE0 ≤ a := UInt8.le_iff_toNat_le.2 ha
  have h3 : a ≤ 0xEF := UInt8.le_iff_toNat_le.2 ha'
  simp [next, h0, h1, h2, h3, hb, hc]

theorem next_four {a b c d : UInt8} (ha : 0xF0 ≤ a.toNat) (ha' : a.toNat ≤ 0xF4)
    (hb : opensFour a b = true) (hc : isTail c = true) (hd : isTail d = true)
    (rest : List UInt8) :
    next a (b :: c :: d :: rest) = (some (assemble (a.toNat - 0xF0) [b, c, d]), 4) := by
  have h0 : ¬a < 0x80 := by
    rw [UInt8.lt_iff_toNat_lt]
    exact Nat.not_lt.2 (Nat.le_trans (by decide) ha)
  have h1 : ¬a ≤ 0xDF := by
    rw [UInt8.le_iff_toNat_le]
    exact Nat.not_le.2 (Nat.lt_of_lt_of_le (by decide) ha)
  have h2 : ¬a ≤ 0xEF := by
    rw [UInt8.le_iff_toNat_le]
    exact Nat.not_le.2 (Nat.lt_of_lt_of_le (by decide) ha)
  have h3 : 0xF0 ≤ a := UInt8.le_iff_toNat_le.2 ha
  have h4 : a ≤ 0xF4 := UInt8.le_iff_toNat_le.2 ha'
  simp [next, h0, h1, h2, h3, h4, hb, hc, hd]

theorem toNat_tail (n : Nat) : (UInt8.ofNat (n % 64 + 0x80)).toNat = n % 64 + 0x80 :=
  toNat_byte (by omega)

theorem isTail_tail (n : Nat) : isTail (UInt8.ofNat (n % 64 + 0x80)) = true := by
  rw [isTail_iff, toNat_tail]
  omega

/-- The numbers of characters leave out the surrogates. -/
theorem toNat_char_valid (c : Char) :
    c.val.toNat < 0xD800 ∨ 0xDFFF < c.val.toNat ∧ c.val.toNat < 0x110000 :=
  c.valid

theorem next_encodeChar (c : Char) (rest : List UInt8) :
    ∃ a tail, String.utf8EncodeChar c = a :: tail ∧
      next a (tail ++ rest) = (some c, tail.length + 1) := by
  have hv := toNat_char_valid c
  have hc : Char.ofNat c.val.toNat = c := Char.ofNat_toNat c
  unfold String.utf8EncodeChar
  dsimp only
  generalize c.val.toNat = v at hv hc ⊢
  -- one case for each number of bytes; that the character is no surrogate matters to the second
  -- byte of three, and that it is below the end of all characters to the second byte of four
  split
  · refine ⟨_, [], rfl, ?_⟩
    have ha : (UInt8.ofNat v).toNat = v := toNat_byte (by omega)
    rw [next_one (by omega), ha, hc]
    rfl
  split
  · refine ⟨_, [_], rfl, ?_⟩
    have ha : (UInt8.ofNat (v / 64 % 0x20 + 0xc0)).toNat = v / 64 % 0x20 + 0xc0 :=
      toNat_byte (by omega)
    rw [List.singleton_append, next_two (by omega) (by omega) (isTail_tail v), assemble]
    simp only [List.foldl_cons, List.foldl_nil, toNat_tail, ha]
    rw [show (v / 64 % 0x20 + 0xc0 - 0xC0) * 64 + (v % 64 + 0x80 - 0x80) = v by omega, hc]
    rfl
  split
  · refine ⟨_, [_, _], rfl, ?_⟩
    have ha : (UInt8.ofNat (v / 4096 % 0x10 + 0xe0)).toNat = v / 4096 % 0x10 + 0xe0 :=
      toNat_byte (by omega)
    have hb : opensThree (UInt8.ofNat (v / 4096 % 0x10 + 0xe0))
        (UInt8.ofNat (v / 64 % 0x40 + 0x80)) = true := by
      rw [opensThree_iff, toNat_tail, ha]
      omega
    change next _ (_ :: _ :: rest) = _
    rw [next_three (by omega) (by omega) hb (isTail_tail v), assemble]
    simp only [List.foldl_cons, List.foldl_nil, toNat_tail, ha]
    rw [show ((v / 4096 % 0x10 + 0xe0 - 0xE0) * 64 + (v / 64 % 64 + 0x80 - 0x80)) * 64 +
      (v % 64 + 0x80 - 0x80) = v by omega, hc]
    rfl
  · refine ⟨_, [_, _, _], rfl, ?_⟩
    have ha : (UInt8.ofNat (v / 262144 % 0x08 + 0xf0)).toNat = v / 262144 % 0x08 + 0xf0 :=
      toNat_byte (by omega)
    have hb : opensFour (UInt8.ofNat (v / 262144 % 0x08 + 0xf0))
        (UInt8.ofNat (v / 4096 % 0x40 + 0x80)) = true := by
      rw [opensFour_iff, toNat_tail, ha]
      omega
    change next _ (_ :: _ :: _ :: rest) = _
    rw [next_four (by omega) (by omega) hb (isTail_tail (v / 64)) (isTail_tail v), assemble]
    simp only [List.foldl_cons, List.foldl_nil, toNat_tail, ha]
    rw [show (((v / 262144 % 0x08 + 0xf0 - 0xF0) * 64 + (v / 4096 % 64 + 0x80 - 0x80)) * 64 +
      (v / 64 % 64 + 0x80 - 0x80)) * 64 + (v % 64 + 0x80 - 0x80) = v by omega, hc]
    rfl

/-! ## Whole texts -/

theorem scan_encodeChar (c : Char) (rest : List UInt8) :
    scan (String.utf8EncodeChar c ++ rest) = some c :: scan rest := by
  obtain ⟨a, tail, he, hn⟩ := next_encodeChar c rest
  rw [he, List.cons_append, scan, hn]
  simp

theorem scan_encode (s : List Char) : scan (encode s) = s.map some := by
  induction s with
  | nil => simp [encode, scan]
  | cons c rest ih =>
    have he : encode (c :: rest) = String.utf8EncodeChar c ++ encode rest := List.flatMap_cons
    rw [he, scan_encodeChar, ih, List.map_cons]

theorem decode?_encode (s : List Char) : decode? (encode s) = some s := by
  rw [decode?, scan_encode, List.mapM_map]
  exact List.mapM_pure (m := Option) (f := fun c : Char => c) |>.trans (by rw [List.map_id']; rfl)

theorem decode?_bytes (s : String) : decode? (bytes s) = some s.toList := decode?_encode s.toList

end BenchSweep.Text.Utf8
