import BenchSweep.Proofs.Csv

/-! Which bytes are tables. All records have as many fields as the first one, and all fields are texts;
otherwise the first record that is not so decides the fault, and in it the number of its fields before
the first field that is no text. -/
set_option autoImplicit false

namespace BenchSweep.Csv

/-! ## Records -/

def IsText (field : Field) : Prop := ∃ s, Text.Utf8.decode? field = some s

/-- Whether a record has this many fields and all of them are texts. -/
structure Sound (width : Nat) (r : Record) : Prop where
  length_eq : r.length = width
  isText : ∀ field ∈ r, IsText field

/-- What is wrong with record `n` of the bytes, which should have `width` fields. -/
inductive Wrong (bytes : List UInt8) (width n : Nat) (r : Record) : TableFault → Prop
  | length (h : r.length ≠ width) :
      Wrong bytes width n r (.unequalLengths (some (position bytes n)) width r.length)
  | text {before after : Record} {field : Field} (h : r.length = width)
      (hr : r = before ++ field :: after) (hbefore : ∀ f ∈ before, IsText f)
      (hfield : ¬IsText field) :
      Wrong bytes width n r (.notUtf8 (position bytes n) before.length (validLength field))

theorem not_isText_iff {field : Field} : ¬IsText field ↔ Text.Utf8.decode? field = none := by
  unfold IsText
  cases Text.Utf8.decode? field <;> simp

/-- The text of a field that has its place in a record. -/
def decodeField (x : Field × Nat) : Except (Nat × Nat) String :=
  match Text.Utf8.decode? x.1 with
  | some s => .ok (String.ofList s)
  | none => .error (x.2, validLength x.1)

theorem exists_decodeField_iff {x : Field × Nat} :
    (∃ s, decodeField x = .ok s) ↔ IsText x.1 := by
  unfold decodeField IsText
  cases Text.Utf8.decode? x.1 <;> simp

theorem decodeField_eq_error_iff {x : Field × Nat} {fault : Nat × Nat} :
    decodeField x = .error fault ↔ ¬IsText x.1 ∧ fault = (x.2, validLength x.1) := by
  rw [not_isText_iff]
  unfold decodeField
  cases Text.Utf8.decode? x.1 <;> simp [eq_comm]

theorem exists_decodeRecord_iff {r : Record} :
    (∃ texts, decodeRecord r = .ok texts) ↔ ∀ field ∈ r, IsText field := by
  change (∃ texts, r.zipIdx.mapM decodeField = .ok texts) ↔ _
  simp only [exists_mapM_ok_iff, exists_decodeField_iff]
  exact forall_mem_zipIdx_iff

theorem decodeRecord_eq_error_iff {r : Record} {fault : Nat × Nat} :
    decodeRecord r = .error fault ↔ ∃ before field after, r = before ++ field :: after ∧
      (∀ f ∈ before, IsText f) ∧ ¬IsText field ∧ fault = (before.length, validLength field) := by
  change r.zipIdx.mapM decodeField = .error fault ↔ _
  simp only [mapM_zipIdx_eq_error_iff, exists_decodeField_iff, forall_mem_zipIdx_iff,
    decodeField_eq_error_iff, Nat.zero_add]

section Records

variable {bytes : List UInt8} {width n : Nat} {r : Record} {fault : TableFault}

theorem exists_readRecord_iff :
    (∃ texts, readRecord bytes width r n = .ok texts) ↔ Sound width r := by
  unfold readRecord
  by_cases h : r.length = width
  · rw [if_neg (not_not.2 h)]
    have hrecord := exists_decodeRecord_iff (r := r)
    cases hd : decodeRecord r with
    | ok texts => exact ⟨fun _ => ⟨h, hrecord.1 ⟨texts, hd⟩⟩, fun _ => ⟨texts, rfl⟩⟩
    | error fault =>
      have hnone : ¬∀ field ∈ r, IsText field := by
        rw [← hrecord, hd]
        simp
      constructor
      · rintro ⟨texts, ht⟩
        cases ht
      · exact fun hs => (hnone hs.isText).elim
  · rw [if_pos h]
    constructor
    · rintro ⟨texts, ht⟩
      cases ht
    · exact fun hs => (h hs.length_eq).elim

theorem readRecord_eq_error_iff :
    readRecord bytes width r n = .error fault ↔ Wrong bytes width n r fault := by
  unfold readRecord
  by_cases h : r.length = width
  · rw [if_neg (not_not.2 h)]
    constructor
    · intro hf
      cases hd : decodeRecord r with
      | ok texts =>
        rw [hd] at hf
        cases hf
      | error place =>
        rw [hd] at hf
        obtain ⟨before, field, after, hr, hbefore, hfield, rfl⟩ := decodeRecord_eq_error_iff.1 hd
        cases hf
        exact .text h hr hbefore hfield
    · intro hw
      cases hw with
      | length hne => exact (hne h).elim
      | text _ hr hbefore hfield =>
        rw [decodeRecord_eq_error_iff.2 ⟨_, _, _, hr, hbefore, hfield, rfl⟩]
  · rw [if_pos h]
    constructor
    · intro hf
      cases hf
      exact .length h
    · intro hw
      cases hw with
      | length _ => rfl
      | text heq _ _ _ => exact (h heq).elim

end Records

/-! ## Tables -/

/-- How many fields the records of a table should have, which is how many the first one has. -/
def width (bytes : List UInt8) : Nat := ((records (content bytes)).head?.map List.length).getD 0

/-- Whether the bytes are a table. -/
def Valid (bytes : List UInt8) : Prop := ∀ r ∈ records (content bytes), Sound (width bytes) r

/-- The header is read like every other record. -/
theorem read_eq_map (bytes : List UInt8) :
    read bytes = (((records (content bytes)).zipIdx).mapM fun x =>
      readRecord bytes (width bytes) x.1 x.2).map fun texts => (texts.headD [], texts.tail) := by
  unfold read width
  cases h : records (content bytes) with
  | nil => rfl
  | cons header rest =>
    rw [List.zipIdx_cons, List.mapM_cons]
    dsimp only [List.head?_cons, Option.map_some, Option.getD_some]
    cases readRecord bytes header.length header 0 with
    | error fault => rfl
    | ok names =>
      dsimp only [bind, Except.bind]
      cases (rest.zipIdx 1).mapM fun x => readRecord bytes header.length x.1 x.2 <;> rfl

theorem exists_read_iff {bytes : List UInt8} : (∃ table, read bytes = .ok table) ↔ Valid bytes := by
  rw [read_eq_map, exists_map_ok_iff]
  simp only [exists_mapM_ok_iff, exists_readRecord_iff]
  exact forall_mem_zipIdx_iff

theorem read_eq_error_iff {bytes : List UInt8} {fault : TableFault} :
    read bytes = .error fault ↔ ∃ before r after,
      records (content bytes) = before ++ r :: after ∧ (∀ r' ∈ before, Sound (width bytes) r') ∧
        Wrong bytes (width bytes) before.length r fault := by
  have hmap : read bytes = .error fault ↔ ((records (content bytes)).zipIdx).mapM (fun x =>
      readRecord bytes (width bytes) x.1 x.2) = .error fault := by
    rw [read_eq_map]
    cases ((records (content bytes)).zipIdx).mapM fun x =>
      readRecord bytes (width bytes) x.1 x.2 <;> simp [Except.map]
  rw [hmap]
  simp only [mapM_zipIdx_eq_error_iff, exists_readRecord_iff, forall_mem_zipIdx_iff,
    readRecord_eq_error_iff, Nat.zero_add]

end BenchSweep.Csv
