import BenchSweep.Proofs.Text.Utf8

/-! Bytes that may be no text. A byte below 0x80 never belongs to a longer character, so what is read
before it and behind it does not depend on the other side. -/
set_option autoImplicit false

namespace BenchSweep.Text.Utf8

/-! ## Bytes that stand alone -/

theorem isTail_of_lt {x : UInt8} (hx : x.toNat < 0x80) : isTail x = false := by
  rw [← Bool.not_eq_true, isTail_iff]
  omega

theorem opensThree_of_lt {x : UInt8} (hx : x.toNat < 0x80) (a : UInt8) :
    opensThree a x = false := by
  rw [← Bool.not_eq_true, opensThree_iff]
  omega

theorem opensFour_of_lt {x : UInt8} (hx : x.toNat < 0x80) (a : UInt8) : opensFour a x = false := by
  rw [← Bool.not_eq_true, opensFour_iff]
  omega

theorem next_append {x : UInt8} (hx : x.toNat < 0x80) (a : UInt8) (s t : List UInt8) :
    next a (s ++ x :: t) = next a s := by
  have h1 := isTail_of_lt hx
  have h3 := opensThree_of_lt hx a
  have h4 := opensFour_of_lt hx a
  rcases s with _ | ⟨b, _ | ⟨c, _ | ⟨d, s⟩⟩⟩
  · simp [next, h1, h3, h4]
  · simp [next, h1]
  · simp [next, h1]
  · simp [next]

theorem length_next (a : UInt8) (s : List UInt8) : (next a s).2 ≤ s.length + 1 := by
  rcases s with _ | ⟨b, _ | ⟨c, _ | ⟨d, s⟩⟩⟩ <;> simp only [next] <;> (repeat' split) <;> simp

theorem scan_append {x : UInt8} (hx : x.toNat < 0x80) (s t : List UInt8) :
    scan (s ++ x :: t) = scan s ++ some (Char.ofNat x.toNat) :: scan t := by
  fun_induction scan s with
  | case1 =>
    rw [List.nil_append, List.nil_append, scan, next_one hx]
    rfl
  | case2 a rest c n hn ih =>
    have hlength : n - 1 ≤ rest.length := by
      have h := length_next a rest
      rw [hn] at h
      omega
    rw [List.cons_append, scan, next_append hx, hn]
    dsimp only
    rw [List.drop_append_of_le_length hlength, ih]
    rfl

theorem decodeLossy_append {x : UInt8} (hx : x.toNat < 0x80) (s t : List UInt8) :
    decodeLossy (s ++ x :: t) = decodeLossy s ++ Char.ofNat x.toNat :: decodeLossy t := by
  rw [decodeLossy, scan_append hx, List.map_append, List.map_cons]
  rfl

theorem decodeLossy_eq_nil_iff (s : List UInt8) : decodeLossy s = [] ↔ s = [] := by
  cases s with
  | nil => simp [decodeLossy, scan]
  | cons a rest => simp [decodeLossy, scan]

/-! ## Characters that stand for themselves -/

theorem eq_of_ofNat_eq {n : Nat} {c : Char} (h : Char.ofNat n = c) (hc : c ≠ '\x00') :
    n = c.toNat := by
  by_cases hn : n.isValidChar
  · rw [← h, Char.ofNat, dif_pos hn]
    rfl
  · rw [Char.ofNat, dif_neg hn] at h
    exact (hc h.symm).elim

theorem toNat_of_between {lo hi a : UInt8} (h : (decide (lo ≤ a) && decide (a ≤ hi)) = true) :
    lo.toNat ≤ a.toNat ∧ a.toNat ≤ hi.toNat := by
  simpa [UInt8.le_iff_toNat_le] using h

/-- The number of a character of several bytes is not that of a byte below 0x80. -/
theorem exists_of_next {a : UInt8} {s : List UInt8} {c : Char} (ha : ¬ a.toNat < 0x80)
    (h : (next a s).1 = some c) : ∃ v, 0x80 ≤ v ∧ c = Char.ofNat v := by
  fun_cases next a s
  case case1 ha' => exact (ha (UInt8.lt_iff_toNat_lt.1 ha')).elim
  case case2 b tail hb _ hlead =>
    obtain ⟨hlo, hhi⟩ := toNat_of_between hlead
    rw [next_two hlo hhi hb] at h
    refine ⟨_, ?_, (Option.some.inj h).symm⟩
    change 0xC2 ≤ a.toNat at hlo
    simp only [List.foldl_cons, List.foldl_nil]
    omega
  case case6 b c tail hc _ _ hlead hb =>
    rw [Bool.not_eq_true', Bool.not_eq_false] at hb
    obtain ⟨hlo, hhi⟩ := toNat_of_between hlead
    rw [next_three hlo hhi hb hc] at h
    refine ⟨_, ?_, (Option.some.inj h).symm⟩
    change 0xE0 ≤ a.toNat at hlo
    rw [opensThree_iff] at hb
    simp only [List.foldl_cons, List.foldl_nil]
    omega
  case case12 b c hc d tail hd _ _ _ hlead hb =>
    rw [Bool.not_eq_true', Bool.not_eq_false] at hb hc
    obtain ⟨hlo, hhi⟩ := toNat_of_between hlead
    rw [next_four hlo hhi hb hc hd] at h
    refine ⟨_, ?_, (Option.some.inj h).symm⟩
    change 0xF0 ≤ a.toNat at hlo
    rw [opensFour_iff] at hb
    simp only [List.foldl_cons, List.foldl_nil]
    omega
  all_goals simp only [next, if_true, if_false, *] at h
  all_goals cases h

/-- A character below 0x80 that is read stands there as a byte; what is no character is never read
as one of them. -/
theorem mem_of_mem_scan {c : Char} (hc : c ≠ '\x00') (hlt : c.toNat < 0x80) {s : List UInt8}
    (h : some c ∈ scan s) : ∃ b ∈ s, b.toNat = c.toNat := by
  fun_induction scan s with
  | case1 => cases h
  | case2 a rest d n hn ih =>
    rcases List.mem_cons.1 h with rfl | h
    · by_cases ha : a.toNat < 0x80
      · rw [next_one ha, Prod.mk.injEq, Option.some.injEq] at hn
        exact ⟨a, List.mem_cons_self, eq_of_ofNat_eq hn.1 hc⟩
      · obtain ⟨v, hv, rfl⟩ := exists_of_next ha (congrArg Prod.fst hn)
        have := eq_of_ofNat_eq rfl hc
        omega
    · obtain ⟨b, hb, he⟩ := ih h
      exact ⟨b, List.mem_cons_of_mem a (List.mem_of_mem_drop hb), he⟩

theorem mem_of_mem_decodeLossy {c : Char} (hc : c ≠ '\x00') (hlt : c.toNat < 0x80) {s : List UInt8}
    (h : c ∈ decodeLossy s) : ∃ b ∈ s, b.toNat = c.toNat := by
  obtain ⟨x, hx, rfl⟩ := List.mem_map.1 h
  cases x with
  | none => exact absurd hlt (by decide)
  | some d => exact mem_of_mem_scan hc hlt hx

end BenchSweep.Text.Utf8
