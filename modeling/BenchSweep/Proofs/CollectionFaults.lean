import BenchSweep.Proofs.Csv.Readable
import BenchSweep.Proofs.SummaryRows

/-! Files that cannot be collected. The first of them in the order of the paths decides the failure: it
cannot be read, it is no table, or, if times are summed up, one of its times is no number. -/
set_option autoImplicit false

namespace BenchSweep

/-! ## Times -/

/-- Whether a cell is read as a time. -/
def IsTime (cell : String) : Prop := ∃ x, Decimal.readFloat (Text.trim cell.toList) = .ok x

/-- Whether a column stands at a place of the header and at no later one. -/
def LastAt (header : List String) (column : String) (j : Nat) : Prop :=
  header[j]? = some column ∧ column ∉ header.drop (j + 1)

theorem exists_lastAt {header : List String} {column : String} (h : column ∈ header) :
    ∃ j, LastAt header column j := by
  induction header with
  | nil => cases h
  | cons name header ih =>
    by_cases hm : column ∈ header
    · obtain ⟨j, hj, hlast⟩ := ih hm
      exact ⟨j + 1, hj, hlast⟩
    · have hname : column = name := (List.mem_cons.1 h).resolve_right hm
      exact ⟨0, by rw [hname]; rfl, hm⟩

/-- The time in a cell of a file. -/
def readTime (path : Path) (cell : String) : Except Failure Binary64 :=
  match Decimal.readFloat (Text.trim cell.toList) with
  | .ok x => .ok x
  | .error e => .error (.unreadableSample s!"results {path.text}" cell e.message)

theorem rowSamples_eq_mapM (path : Path) (rows : List Row) :
    rowSamples path rows = (rows.filterMap (·.get? "time_ms")).mapM (readTime path) := rfl

theorem exists_readTime_iff {path : Path} {cell : String} :
    (∃ x, readTime path cell = .ok x) ↔ IsTime cell := by
  unfold readTime IsTime
  cases Decimal.readFloat (Text.trim cell.toList) <;> simp

theorem readTime_eq_error_iff {path : Path} {cell : String} {f : Failure} :
    readTime path cell = .error f ↔ ∃ reason,
      Decimal.readFloat (Text.trim cell.toList) = .error reason ∧
        f = .unreadableSample s!"results {path.text}" cell reason.message := by
  unfold readTime
  cases Decimal.readFloat (Text.trim cell.toList) <;> simp [eq_comm]

/-! ## Times of a table -/

section Table

variable {bytes : List UInt8} {header : List String} {records : List (List String)}
  (hb : Csv.read bytes = .ok (header, records))

include hb

theorem get?_of_lastAt {j : Nat} (hj : LastAt header "time_ms" j) {record : List String}
    (h : record ∈ records) : ∃ cell, record[j]? = some cell ∧
      (OrderedMap.ofList (header.zip record)).get? "time_ms" = some cell := by
  have hlength := Csv.length_of_read hb record h
  obtain ⟨hlt, -⟩ := List.getElem?_eq_some_iff.1 hj.1
  have hcell : record[j]? = some record[j] := List.getElem?_eq_getElem (hlength ▸ hlt)
  exact ⟨_, hcell, ((Row.holds_ofList hlength).cells j _ hj.1 hj.2).trans hcell⟩

/-- The time of each record stands under the last column of that name. -/
theorem rowSamples_of_lastAt (path : Path) {j : Nat} (hj : LastAt header "time_ms" j) :
    rowSamples path (rowsOf (header, records)) =
      records.mapM fun record => readTime path ((record[j]?).getD "") := by
  have hcells : (rowsOf (header, records)).filterMap (·.get? "time_ms") =
      records.map fun record => (record[j]?).getD "" := by
    unfold rowsOf
    rw [List.filterMap_map, ← List.filterMap_eq_map]
    refine List.filterMap_congr fun record hrecord => ?_
    obtain ⟨cell, hcell, hget⟩ := get?_of_lastAt hb hj hrecord
    simp only [Function.comp_apply]
    rw [hget, hcell]
    rfl
  rw [rowSamples_eq_mapM, hcells, List.mapM_map]
  rfl

theorem rowSamples_of_not_mem (path : Path) (h : "time_ms" ∉ header) :
    rowSamples path (rowsOf (header, records)) = .ok [] := by
  have hcells : (rowsOf (header, records)).filterMap (·.get? "time_ms") = [] := by
    refine List.filterMap_eq_nil_iff.2 fun r hr => ?_
    have hkey : "time_ms" ∉ r.keys := by
      rw [keys_of_mem_rowsOf hb hr, mem_firsts_iff]
      exact h
    rw [OrderedMap.mem_keys_iff] at hkey
    cases hget : r.get? "time_ms" with
    | none => rfl
    | some cell => exact (hkey ⟨cell, hget⟩).elim
  rw [rowSamples_eq_mapM, hcells]
  rfl

theorem isTime_iff {j : Nat} (hj : LastAt header "time_ms" j) {record : List String}
    (h : record ∈ records) :
    IsTime ((record[j]?).getD "") ↔ ∀ cell, record[j]? = some cell → IsTime cell := by
  obtain ⟨cell, hcell, -⟩ := get?_of_lastAt hb hj h
  rw [hcell]
  simp

theorem exists_rowSamples_iff (path : Path) :
    (∃ samples, rowSamples path (rowsOf (header, records)) = .ok samples) ↔
      ∀ j, LastAt header "time_ms" j → ∀ record ∈ records, ∀ cell, record[j]? = some cell →
        IsTime cell := by
  have hsome : ∀ j, LastAt header "time_ms" j →
      ((∃ samples, rowSamples path (rowsOf (header, records)) = .ok samples) ↔
        ∀ record ∈ records, ∀ cell, record[j]? = some cell → IsTime cell) := by
    intro j hj
    simp only [rowSamples_of_lastAt hb path hj, exists_mapM_ok_iff, exists_readTime_iff]
    exact forall₂_congr fun record hrecord => isTime_iff hb hj hrecord
  constructor
  · intro h j hj
    exact (hsome j hj).1 h
  · intro h
    by_cases hm : "time_ms" ∈ header
    · obtain ⟨j, hj⟩ := exists_lastAt hm
      exact (hsome j hj).2 (h j hj)
    · exact ⟨[], rowSamples_of_not_mem hb path hm⟩

theorem rowSamples_eq_error_iff {path : Path} {f : Failure} :
    rowSamples path (rowsOf (header, records)) = .error f ↔ ∃ j before record after cell reason,
      LastAt header "time_ms" j ∧ records = before ++ record :: after ∧
        (∀ r ∈ before, ∀ c, r[j]? = some c → IsTime c) ∧ record[j]? = some cell ∧
        Decimal.readFloat (Text.trim cell.toList) = .error reason ∧
        f = .unreadableSample s!"results {path.text}" cell reason.message := by
  constructor
  · intro h
    by_cases hm : "time_ms" ∈ header
    · obtain ⟨j, hj⟩ := exists_lastAt hm
      rw [rowSamples_of_lastAt hb path hj] at h
      obtain ⟨before, record, after, rfl, hbefore, hrecord⟩ := mapM_eq_error_iff.1 h
      obtain ⟨cell, hcell, -⟩ := get?_of_lastAt hb hj List.mem_append_cons_self
      rw [hcell] at hrecord
      obtain ⟨reason, hreason, hf⟩ := readTime_eq_error_iff.1 hrecord
      refine ⟨j, before, record, after, cell, reason, hj, rfl, fun r hr => ?_, hcell, hreason, hf⟩
      rw [← isTime_iff hb hj (List.mem_append_left _ hr)]
      exact exists_readTime_iff.1 (hbefore r hr)
    · rw [rowSamples_of_not_mem hb path hm] at h
      cases h
  · rintro ⟨j, before, record, after, cell, reason, hj, rfl, hbefore, hcell, hreason, hf⟩
    rw [rowSamples_of_lastAt hb path hj]
    refine mapM_eq_error_iff.2 ⟨before, record, after, rfl, fun r hr => ?_, ?_⟩
    · rw [exists_readTime_iff, isTime_iff hb hj (List.mem_append_left _ hr)]
      exact hbefore r hr
    · rw [hcell]
      exact readTime_eq_error_iff.2 ⟨reason, hreason, hf⟩

end Table

/-! ## Files -/

namespace Files.Entry

/-- Whether a file can be collected. It is a table, and if times are summed up then each cell under the
last column of that name is a time. -/
def Accepted (raw : Bool) (e : Entry) : Prop :=
  ∃ bytes, e.node = .file bytes ∧ Csv.Valid bytes ∧
    (raw = false → ∀ header records, Csv.read bytes = .ok (header, records) →
      ∀ j, LastAt header "time_ms" j → ∀ record ∈ records, ∀ cell, record[j]? = some cell →
        IsTime cell)

/-- What is wrong with a file that cannot be collected. Times are looked at only in what is a table. -/
inductive Offends (raw : Bool) (e : Entry) : Failure → Prop
  | unreadable {fault : HostFault} (h : Node.bytes e.node = .error fault) :
      Offends raw e (.table (.host fault))
  | malformed {bytes : List UInt8} {before after : List Csv.Record} {r : Csv.Record}
      {fault : TableFault} (hn : e.node = .file bytes)
      (hr : Csv.records (Csv.content bytes) = before ++ r :: after)
      (hbefore : ∀ r' ∈ before, Csv.Sound (Csv.width bytes) r')
      (hwrong : Csv.Wrong bytes (Csv.width bytes) before.length r fault) :
      Offends raw e (.table fault)
  | badTime {bytes : List UInt8} {header : List String} {before after : List (List String)}
      {record : List String} {j : Nat} {cell : String} {reason : Decimal.FloatError}
      (hraw : raw = false) (hn : e.node = .file bytes)
      (hread : Csv.read bytes = .ok (header, before ++ record :: after))
      (hj : LastAt header "time_ms" j)
      (hbefore : ∀ r ∈ before, ∀ c, r[j]? = some c → IsTime c) (hcell : record[j]? = some cell)
      (hreason : Decimal.readFloat (Text.trim cell.toList) = .error reason) :
      Offends raw e (.unreadableSample s!"results {e.path.text}" cell reason.message)

section Contribution

variable {raw : Bool} {e : Entry} {bytes : List UInt8} {header : List String}
  {records : List (List String)} {f : Failure}

theorem contribution_of_unreadable {fault : HostFault} (h : Node.bytes e.node = .error fault) :
    e.contribution raw = .error (.table (.host fault)) := by
  unfold Entry.contribution Entry.rows
  rw [h]
  rfl

theorem contribution_of_malformed {fault : TableFault} (hn : e.node = .file bytes)
    (hb : Csv.read bytes = .error fault) : e.contribution raw = .error (.table fault) := by
  unfold Entry.contribution Entry.rows readRows
  rw [hn]
  dsimp only [Node.bytes]
  rw [hb]
  rfl

theorem contribution_of_read (hn : e.node = .file bytes)
    (hb : Csv.read bytes = .ok (header, records)) :
    e.contribution raw = if raw then .ok (rowsOf (header, records))
      else summarise e.path (rowsOf (header, records)) := by
  unfold Entry.contribution
  rw [rows_of_read hn hb]
  rfl

theorem accepted_iff_of_read (hn : e.node = .file bytes)
    (hb : Csv.read bytes = .ok (header, records)) :
    e.Accepted raw ↔ (raw = false → ∀ j, LastAt header "time_ms" j → ∀ record ∈ records,
      ∀ cell, record[j]? = some cell → IsTime cell) := by
  constructor
  · rintro ⟨bytes', hn', -, htimes⟩ hraw
    cases hn.symm.trans hn'
    exact htimes hraw header records hb
  · refine fun htimes => ⟨bytes, hn, Csv.exists_read_iff.1 ⟨_, hb⟩, fun hraw header' records' hb' => ?_⟩
    cases hb.symm.trans hb'
    exact htimes hraw

theorem exists_contribution_iff :
    (∃ rows, e.contribution raw = .ok rows) ↔ e.Accepted raw := by
  cases hbytes : Node.bytes e.node with
  | error fault =>
    rw [contribution_of_unreadable hbytes]
    constructor
    · rintro ⟨rows, h⟩
      cases h
    · rintro ⟨bytes, hn, -⟩
      rw [Node.bytes_eq_ok_iff.2 hn] at hbytes
      cases hbytes
  | ok bytes =>
    have hn := Node.bytes_eq_ok_iff.1 hbytes
    cases hb : Csv.read bytes with
    | error fault =>
      rw [contribution_of_malformed hn hb]
      constructor
      · rintro ⟨rows, h⟩
        cases h
      · rintro ⟨bytes', hn', hvalid, -⟩
        cases hn.symm.trans hn'
        obtain ⟨table, htable⟩ := Csv.exists_read_iff.2 hvalid
        cases hb.symm.trans htable
    | ok table =>
      rw [contribution_of_read hn hb, accepted_iff_of_read hn hb]
      cases raw with
      | true => simp
      | false =>
        rw [if_neg Bool.false_ne_true]
        unfold summarise
        rw [exists_map_ok_iff, exists_rowSamples_iff hb]
        simp

theorem contribution_eq_error_iff : e.contribution raw = .error f ↔ e.Offends raw f := by
  constructor
  · intro h
    cases hbytes : Node.bytes e.node with
    | error fault =>
      cases (contribution_of_unreadable hbytes).symm.trans h
      exact .unreadable hbytes
    | ok bytes =>
      have hn := Node.bytes_eq_ok_iff.1 hbytes
      cases hb : Csv.read bytes with
      | error fault =>
        cases (contribution_of_malformed hn hb).symm.trans h
        obtain ⟨before, r, after, hr, hbefore, hwrong⟩ := Csv.read_eq_error_iff.1 hb
        exact .malformed hn hr hbefore hwrong
      | ok table =>
        rw [contribution_of_read hn hb] at h
        cases raw with
        | true => cases h
        | false =>
          obtain ⟨j, before, record, after, cell, reason, hj, hrecords, hbefore, hcell, hreason, rfl⟩ :=
            (rowSamples_eq_error_iff hb).1 (map_eq_error_iff.1 h)
          exact .badTime rfl hn (hb.trans (by rw [← hrecords])) hj hbefore hcell hreason
  · intro h
    cases h with
    | unreadable hbytes => exact contribution_of_unreadable hbytes
    | malformed hn hr hbefore hwrong =>
      exact contribution_of_malformed hn (Csv.read_eq_error_iff.2 ⟨_, _, _, hr, hbefore, hwrong⟩)
    | badTime hraw hn hb hj hbefore hcell hreason =>
      rw [contribution_of_read hn hb, hraw]
      exact map_eq_error_iff.2 ((rowSamples_eq_error_iff hb).2
        ⟨_, _, _, _, _, _, hj, rfl, hbefore, hcell, hreason, rfl⟩)

end Contribution

end Files.Entry

/-! ## Collecting -/

section Collecting

variable {σ : Type} {raw : Bool} {source : Path} {w : World σ} {f : Failure}

theorem fst_on_collect (raw : Bool) (source : Path) (w : World σ) :
    ((collect raw source).on w).1 =
      ((w.files.results source).mapM (Files.Entry.contribution raw)).map fun blocks =>
        blocks.flatten.foldl Table.push Table.empty := by
  obtain ⟨events, h⟩ := on_collect_eq raw source w
  rw [h]

/-- The files are only read. -/
theorem files_on_collect (raw : Bool) (source : Path) (w : World σ) :
    ((collect raw source).on w).2.files = w.files := by
  obtain ⟨events, h⟩ := on_collect_eq raw source w
  rw [h, World.told_files]

theorem exists_collect_iff : (∃ t, ((collect raw source).on w).1 = .ok t) ↔
    ∀ e ∈ w.files.results source, e.Accepted raw := by
  simp only [fst_on_collect, exists_map_ok_iff, exists_mapM_ok_iff,
    Files.Entry.exists_contribution_iff]

/-- The first file that cannot be collected decides the failure. -/
theorem collect_eq_error_iff : ((collect raw source).on w).1 = .error f ↔
    ∃ before e after, w.files.results source = before ++ e :: after ∧
      (∀ e' ∈ before, e'.Accepted raw) ∧ e.Offends raw f := by
  simp only [fst_on_collect, map_eq_error_iff, mapM_eq_error_iff,
    Files.Entry.exists_contribution_iff, Files.Entry.contribution_eq_error_iff]

end Collecting

end BenchSweep
