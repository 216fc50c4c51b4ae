import BenchSweep.Proofs.Campaign
import BenchSweep.Proofs.Decimal
import BenchSweep.Proofs.Files

/-! The directories of the runs of a campaign. They are as many as the runs; those of several runs
stand side by side in one directory under different names, so that none is in another. -/
set_option autoImplicit false

namespace BenchSweep

/-! ## Names -/

theorem Path.isName_of_isDigit {name : String} (hn : name ≠ "")
    (h : ∀ c ∈ name.toList, c.isDigit = true ∨ c = '-') : Path.IsName name := by
  have hother : ∀ c : Char, c.isDigit = false → c ≠ '-' → c ∉ name.toList := by
    intro c hdigit hdash hc
    rcases h c hc with hd | he
    · rw [hdigit] at hd
      cases hd
    · exact hdash he
  refine ⟨⟨hn, hother '/' (by decide) (by decide)⟩, ?_, ?_⟩
  · rintro rfl
    exact hother '.' (by decide) (by decide) (by decide)
  · rintro rfl
    exact hother '.' (by decide) (by decide) (by decide)

def Campaign.number (i : Nat) : String := String.ofList (Decimal.digits i)

namespace Campaign

theorem isName_number (i : Nat) : Path.IsName (number i) := by
  refine Path.isName_of_isDigit ?_ ?_
  · intro h
    exact Decimal.digits_ne_nil i (String.ofList_eq_empty_iff.1 h)
  · intro c hc
    rw [number, String.toList_ofList] at hc
    exact .inl (Decimal.isDigit_of_mem_digits hc)

theorem isPart_number (i : Nat) : Path.IsPart (number i) := (isName_number i).1

theorem number_ne_dots (i : Nat) : number i ≠ "." ∧ number i ≠ ".." := (isName_number i).2

theorem number_injective {i j : Nat} (h : number i = number j) : i = j :=
  Decimal.digits_injective (String.ofList_injective h)

theorem isDigit_of_mem_padded {width n : Nat} {ch : Char} (h : ch ∈ (padded width n).toList) :
    ch.isDigit = true := by
  unfold padded at h
  rw [String.toList_ofList] at h
  rcases List.mem_append.1 h with h | h
  · rw [List.eq_of_mem_replicate h]
    decide
  · exact Decimal.isDigit_of_mem_digits h

/-- Digits with dashes between them. -/
theorem isName_dashed {x y z : String} (h : ∀ s ∈ [x, y, z], ∀ c ∈ s.toList, c.isDigit = true) :
    Path.IsName ("-".intercalate [x, y, z]) := by
  have he : ("-".intercalate [x, y, z]).toList =
      x.toList ++ '-' :: (y.toList ++ '-' :: z.toList) := by
    change (x ++ "-" ++ y ++ "-" ++ z).toList = _
    simp only [String.toList_append, List.append_assoc]
    rfl
  refine Path.isName_of_isDigit ?_ ?_
  · intro hn
    rw [hn] at he
    exact List.append_ne_nil_of_right_ne_nil _ (List.cons_ne_nil _ _) he.symm
  · intro c hc
    rw [he] at hc
    simp only [List.mem_append, List.mem_cons] at hc
    rcases hc with hc | rfl | hc | rfl | hc
    · exact .inl (h x (by simp) c hc)
    · exact .inr rfl
    · exact .inl (h y (by simp) c hc)
    · exact .inr rfl
    · exact .inl (h z (by simp) c hc)

theorem isName_timeText (startedAt : Nat) : Path.IsName (Instant.timeText "-" startedAt) := by
  unfold Instant.timeText
  refine isName_dashed fun s hs c hc => ?_
  simp only [List.mem_cons, List.not_mem_nil, or_false] at hs
  rcases hs with rfl | rfl | rfl <;> exact isDigit_of_mem_padded hc

theorem isPart_timeText (startedAt : Nat) : Path.IsPart (Instant.timeText "-" startedAt) :=
  (isName_timeText startedAt).1

theorem isName_dateText (startedAt : Nat) : Path.IsName (Instant.dateText startedAt) := by
  unfold Instant.dateText
  refine isName_dashed fun s hs c hc => ?_
  simp only [List.mem_cons, List.not_mem_nil, or_false] at hs
  rcases hs with rfl | rfl | rfl <;> exact isDigit_of_mem_padded hc

/-! ## Directories -/

def numbered (base : Path) (i : Nat) : Path := base.child (number i)

theorem place_numbered (base : Path) (i : Nat) (fs : Files) :
    fs.place (numbered base i) = fs.place base ++ [number i] :=
  fs.place_child base (isPart_number i) (number_ne_dots i)

theorem parts_numbered (base : Path) (i : Nat) :
    (numbered base i).parts = base.parts ++ [number i] :=
  Path.parts_child base (isPart_number i)

theorem parts_numbered_ne_nil (base : Path) (i : Nat) : (numbered base i).parts ≠ [] := by
  rw [parts_numbered]
  simp

theorem start_numbered (base : Path) (i : Nat) (fs : Files) :
    fs.start (numbered base i) = fs.start base := by
  unfold Files.start numbered
  rw [Path.isRooted_child base (isPart_number i)]

/-- What stands below the path of one run does not stand below that of another. -/
theorem not_prefix_of_prefix_numbered {base : Path} {i j : Nat} (hne : i ≠ j) {fs : Files}
    {l : Location} (hl : fs.place (numbered base j) <+: l) :
    ¬ fs.place (numbered base i) <+: l := by
  intro hi
  rw [place_numbered] at hl hi
  have hp := List.prefix_of_prefix_length_le hi hl (by simp)
  rw [List.prefix_append_right_inj] at hp
  exact hne (number_injective (List.cons_prefix_cons.1 hp).1)

/-- The directory that several runs share. -/
def base (c : Campaign) (startedAt : Nat) : Path :=
  ((c.output.child "multirun").child (Instant.dateText startedAt)).child
    (Instant.timeText "-" startedAt)

theorem parts_base_ne_nil (c : Campaign) (startedAt : Nat) : (c.base startedAt).parts ≠ [] := by
  unfold base
  rw [Path.parts_child _ (isPart_timeText startedAt)]
  simp

section

variable {c : Campaign} {startedAt count i : Nat} {d : Path}

theorem lt_of_directory (h : (c.directories startedAt count)[i]? = some d) : i < count := by
  obtain ⟨hi, -⟩ := List.getElem?_eq_some_iff.1 h
  rwa [length_directories] at hi

theorem directory_eq_numbered (h : (c.directories startedAt count)[i]? = some d) (hc : count ≠ 1) :
    d = numbered (c.base startedAt) i := by
  have hi := lt_of_directory h
  unfold directories at h
  dsimp only at h
  rw [if_neg hc, List.getElem?_map, List.getElem?_range hi] at h
  exact (Option.some.inj h).symm

theorem parts_directory_ne_nil (h : (c.directories startedAt count)[i]? = some d) :
    d.parts ≠ [] := by
  by_cases hc : count = 1
  · have hd := List.mem_of_getElem? h
    unfold directories at hd
    dsimp only at hd
    rw [if_pos hc, List.mem_singleton] at hd
    rw [hd, Path.parts_child _ (isPart_timeText startedAt)]
    simp
  · rw [directory_eq_numbered h hc]
    exact parts_numbered_ne_nil _ i

theorem count_ne_one {j : Nat} {d' : Path} (h : (c.directories startedAt count)[i]? = some d)
    (h' : (c.directories startedAt count)[j]? = some d') (hne : i ≠ j) : count ≠ 1 := by
  have hi := lt_of_directory h
  have hj := lt_of_directory h'
  omega

/-- What stands below the directory of a run does not stand below that of another. -/
theorem not_prefix_of_prefix_directory {j : Nat} {d' : Path}
    (h : (c.directories startedAt count)[i]? = some d)
    (h' : (c.directories startedAt count)[j]? = some d') (hne : i ≠ j) {fs : Files} {l : Location}
    (hl : fs.place d' <+: l) : ¬ fs.place d <+: l := by
  have hc := count_ne_one h h' hne
  obtain rfl := directory_eq_numbered h hc
  obtain rfl := directory_eq_numbered h' hc
  exact not_prefix_of_prefix_numbered hne hl

end

end Campaign

end BenchSweep
