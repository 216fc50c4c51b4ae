import BenchSweep.Proofs.ColumnUnion

/-! The rows that a file gives to a table of summaries. They keep what is in the records of the file but
for the sample, as long as no column of the file is called like one of the summary: the summary is put
in over what stands there. -/
set_option autoImplicit false

namespace BenchSweep

open scoped List

/-! ## Rows and the records they stand for -/

namespace Row

/-- Whether a row has the own cell of a record in every column of the record but those of its
sample. -/
def StandsFor (r own : Row) : Prop :=
  ∀ column ∈ own.keys, column ≠ "iteration" → column ≠ "time_ms" →
    r.get? column = own.get? column

/-- Records that one row stands for are the same but for their samples. -/
theorem StandsFor.withoutSample_eq {r own own' : Row} (h : r.StandsFor own)
    (h' : r.StandsFor own') (hkeys : own.keys = own'.keys) :
    own.withoutSample = own'.withoutSample := by
  refine (withoutSample_eq_iff hkeys).2 fun column hcolumn => ?_
  obtain ⟨hmem, hi, ht⟩ := mem_keys_withoutSample_iff.1 hcolumn
  rw [← h column hmem hi ht, h' column (hkeys ▸ hmem) hi ht]

/-- Outside the columns of the summary a row keeps what the record has. -/
theorem get?_withoutSample_withSummary (own : Row) (summary : Option Summary) {column : String}
    (hi : column ≠ "iteration") (ht : column ≠ "time_ms") (hs : column ∉ summaryColumns) :
    (own.withoutSample.withSummary summary).get? column = own.get? column := by
  rw [get?_withSummary_of_not_mem _ _ hs, get?_withoutSample own hi ht]

theorem standsFor_withSummary {own : Row} {summary : Option Summary}
    (h : ∀ column cell, (column, cell) ∈ summaryCells summary → column ∈ own.keys →
      own.get? column = some cell) :
    (own.withoutSample.withSummary summary).StandsFor own := by
  intro column hcolumn hi ht
  by_cases hs : column ∈ summaryColumns
  · obtain ⟨⟨_, cell⟩, hcell, rfl⟩ :=
      List.mem_map.1 (show column ∈ (summaryCells summary).map Prod.fst from hs)
    rw [get?_withSummary _ _ hcell, h _ cell hcell hcolumn]
  · exact own.get?_withoutSample_withSummary summary hi ht hs

end Row

/-- Whether rows keep the records of a file: for each record exactly one of them stands, each of them
stands for some record, no two of them are equal, and they come in the order of the first record that
they stand for. -/
structure KeepRecords (records rows : List Row) : Prop where
  represented : ∀ own ∈ records, ∃! k : Nat, ∃ r, rows[k]? = some r ∧ Row.StandsFor r own
  grounded : ∀ r ∈ rows, ∃ own ∈ records, Row.StandsFor r own
  distinct : rows.Nodup
  ordered : rows.Pairwise fun r r' => ∃ (i : Nat) (own : Row), records[i]? = some own ∧
    r.StandsFor own ∧
    ∀ (i' : Nat) (own' : Row), records[i']? = some own' → r'.StandsFor own' → i < i'

/-! ## Rows with a summary -/

/-- The rows of records without their samples, each once and with the summary put in. -/
def condense (summary : Option Summary) (records : List Row) : List Row :=
  (firsts (records.map Row.withoutSample)).map (·.withSummary summary)

section Condense

variable {records : List Row} {summary : Option Summary} {header : List String}

theorem exists_of_mem_condense {r : Row} (h : r ∈ condense summary records) :
    ∃ own ∈ records, own.withoutSample.withSummary summary = r := by
  obtain ⟨x, hx, rfl⟩ := List.mem_map.1 h
  obtain ⟨own, hown, rfl⟩ := List.mem_map.1 (mem_firsts_iff.1 hx)
  exact ⟨own, hown, rfl⟩

theorem get?_of_mem_condense {r : Row} (h : r ∈ condense summary records) {column cell : String}
    (hc : (column, cell) ∈ summaryCells summary) : r.get? column = some cell := by
  obtain ⟨own, -, rfl⟩ := exists_of_mem_condense h
  exact Row.get?_withSummary _ _ hc

theorem keys_of_mem_condense (hkeys : ∀ own ∈ records, own.keys = header) {r : Row}
    (h : r ∈ condense summary records) :
    let shared := header.filter fun column => column ≠ "iteration" ∧ column ≠ "time_ms"
    r.keys = shared ++ summaryColumns.filter (· ∉ shared) := by
  obtain ⟨own, hown, rfl⟩ := exists_of_mem_condense h
  rw [Row.keys_withSummary, Row.keys_withoutSample, hkeys own hown]

/-- The rows stand for the first records among those that are the same but for their samples. -/
theorem exists_firsts_condense (hkeys : ∀ own ∈ records, own.keys = header)
    (summary : Option Summary) :
    let shared := header.filter fun column => column ≠ "iteration" ∧ column ≠ "time_ms"
    ∃ kept, kept <+ records ∧
      kept.Pairwise (fun own own' => ∃ column ∈ shared, own.get? column ≠ own'.get? column) ∧
      (∀ (i : Nat) (own : Row), records[i]? = some own → ∃ j ≤ i, ∃ first ∈ kept,
        records[j]? = some first ∧ ∀ column ∈ shared, first.get? column = own.get? column) ∧
      List.Forall₂ (fun r own => ∀ column ∈ shared, column ∉ summaryColumns →
        r.get? column = own.get? column) (condense summary records) kept := by
  intro shared
  have hshared : ∀ own ∈ records, own.withoutSample.keys = shared := by
    intro own hown
    rw [Row.keys_withoutSample, hkeys own hown]
  have hsame : ∀ own ∈ records, ∀ own' ∈ records, own.withoutSample = own'.withoutSample ↔
      ∀ column ∈ shared, own.get? column = own'.get? column := by
    intro own hown own' hown'
    rw [Row.withoutSample_eq_iff ((hkeys own hown).trans (hkeys own' hown').symm),
      hshared own hown]
  obtain ⟨kept, hsub, hmap, hfirst⟩ := exists_sublist_firsts Row.withoutSample records
  refine ⟨kept, hsub, ?_, fun i own hown => ?_, ?_⟩
  · have hnodup : (kept.map Row.withoutSample).Nodup := hmap ▸ nodup_firsts _
    refine (List.pairwise_map.1 hnodup).imp_of_mem fun {own own'} hown hown' hne => ?_
    rw [Ne, hsame own (hsub.mem hown) own' (hsub.mem hown')] at hne
    simpa using hne
  · obtain ⟨j, hj, first, hmem, hget, heq⟩ := hfirst i own hown
    exact ⟨j, hj, first, hmem, hget,
      (hsame first (List.mem_of_getElem? hget) own (List.mem_of_getElem? hown)).1 heq⟩
  · unfold condense
    rw [← hmap, List.map_map, List.forall₂_map_left_iff, List.forall₂_same]
    intro own hown column hcolumn hs
    rw [← hshared own (hsub.mem hown), Row.mem_keys_withoutSample_iff] at hcolumn
    exact own.get?_withoutSample_withSummary summary hcolumn.2.1 hcolumn.2.2 hs

/-- Records that already have the cells of the summary, wherever they have its columns, are kept. -/
theorem keepRecords_condense (hkeys : ∀ own ∈ records, own.keys = header)
    (h : ∀ own ∈ records, ∀ column cell, (column, cell) ∈ summaryCells summary →
      column ∈ own.keys → own.get? column = some cell) :
    KeepRecords records (condense summary records) := by
  have hstands : ∀ own ∈ records, (own.withoutSample.withSummary summary).StandsFor own :=
    fun own hown => Row.standsFor_withSummary (h own hown)
  have hsame : ∀ own ∈ records, ∀ own' ∈ records,
      (own.withoutSample.withSummary summary).StandsFor own' →
        own.withoutSample = own'.withoutSample := fun own hown own' hown' hs =>
    (hstands own hown).withoutSample_eq hs ((hkeys own hown).trans (hkeys own' hown').symm)
  constructor
  case represented =>
    intro own hown
    obtain ⟨k, hk⟩ := List.mem_iff_getElem?.1
      (mem_firsts_iff.2 (List.mem_map_of_mem (f := Row.withoutSample) hown))
    refine ⟨k, ⟨_, ?_, hstands own hown⟩, ?_⟩
    · unfold condense
      rw [List.getElem?_map, hk]
      rfl
    · rintro k' ⟨r, hr, hs⟩
      unfold condense at hr
      rw [List.getElem?_map] at hr
      obtain ⟨x, hx, rfl⟩ := Option.map_eq_some_iff.1 hr
      obtain ⟨own', hown', rfl⟩ :=
        List.mem_map.1 (mem_firsts_iff.1 (List.mem_of_getElem? hx))
      rw [hsame own' hown' own hown hs, ← hk] at hx
      obtain ⟨hk', -⟩ := List.getElem?_eq_some_iff.1 (hx.trans hk)
      exact (List.getElem?_inj hk' (nodup_firsts _)).1 hx
  case grounded =>
    intro r hr
    obtain ⟨own, hown, rfl⟩ := exists_of_mem_condense hr
    exact ⟨own, hown, hstands own hown⟩
  case distinct =>
    refine (nodup_firsts _).map_on ?_
    intro x hx y hy hxy
    obtain ⟨own, hown, rfl⟩ := List.mem_map.1 (mem_firsts_iff.1 hx)
    obtain ⟨own', hown', rfl⟩ := List.mem_map.1 (mem_firsts_iff.1 hy)
    exact hsame own hown own' hown' (hxy ▸ hstands own' hown')
  case ordered =>
    refine List.pairwise_map.2 ((pairwise_firsts _).imp_of_mem fun {x y} hx hy hlt => ?_)
    have hplace := List.getElem?_idxOf (mem_firsts_iff.1 hx)
    rw [List.getElem?_map] at hplace
    obtain ⟨own, hown, rfl⟩ := Option.map_eq_some_iff.1 hplace
    refine ⟨_, own, hown, hstands own (List.mem_of_getElem? hown), fun i' own' hown' hs => ?_⟩
    obtain ⟨own'', hmem, rfl⟩ := List.mem_map.1 (mem_firsts_iff.1 hy)
    have hy' : (records.map Row.withoutSample)[i']? = some own''.withoutSample := by
      rw [List.getElem?_map, hown', hsame own'' hmem own' (List.mem_of_getElem? hown') hs]
      rfl
    exact Nat.lt_of_lt_of_le hlt (idxOf_le_of_getElem? hy')

/-- Nothing else is kept: the summary is put in over what a record has under the same name. -/
theorem keepRecords_condense_iff (hkeys : ∀ own ∈ records, own.keys = header) :
    KeepRecords records (condense summary records) ↔
      ∀ own ∈ records, ∀ column cell, (column, cell) ∈ summaryCells summary →
        column ∈ own.keys → own.get? column = some cell := by
  refine ⟨fun h own hown column cell hcell hcolumn => ?_, keepRecords_condense hkeys⟩
  obtain ⟨k, ⟨r, hr, hs⟩, -⟩ := h.represented own hown
  obtain ⟨own', -, rfl⟩ := exists_of_mem_condense (List.mem_of_getElem? hr)
  have hother : ∀ name ∈ summaryColumns, name ≠ "iteration" ∧ name ≠ "time_ms" := by decide
  obtain ⟨hi, ht⟩ := hother column (mem_summaryColumns hcell)
  rw [← hs column hcolumn hi ht, Row.get?_withSummary _ _ hcell]

end Condense

/-! ## Rows of a file -/

namespace Files

theorem Node.bytes_eq_ok_iff {n : Node} {bytes : List UInt8} :
    Node.bytes n = .ok bytes ↔ n = .file bytes := by
  cases n <;> simp [Node.bytes]

namespace Entry

variable {e : Entry} {records rows : List Row}

theorem exists_of_rows (h : e.rows = .ok records) :
    ∃ bytes table, e.node = .file bytes ∧ Csv.read bytes = .ok table ∧ rowsOf table = records := by
  unfold Entry.rows at h
  split at h
  · cases h
  · rename_i bytes hbytes
    obtain ⟨table, hb, hrecords⟩ := map_eq_ok_iff.1 (mapError_eq_ok_iff.1 h)
    exact ⟨bytes, table, Node.bytes_eq_ok_iff.1 hbytes, hb, hrecords⟩

theorem contribution_summary_iff :
    e.contribution false = .ok rows ↔ ∃ records samples, e.rows = .ok records ∧
      rowSamples e.path records = .ok samples ∧
      condense (Summary.ofSamples samples) records = rows := by
  constructor
  · intro h
    obtain ⟨records, hrecords, h⟩ := exists_of_bind_eq_ok h
    obtain ⟨samples, hsamples, hrows⟩ := map_eq_ok_iff.1 h
    exact ⟨records, samples, hrecords, hsamples, hrows⟩
  · rintro ⟨records, samples, hrecords, hsamples, rfl⟩
    unfold Entry.contribution
    rw [hrecords]
    exact map_eq_ok_iff.2 ⟨samples, hsamples, rfl⟩

end Entry

end Files

theorem forall₂_of_rowSamples {path : Path} {records : List Row} {samples : List Binary64}
    (h : rowSamples path records = .ok samples) :
    List.Forall₂ (fun cell x => Decimal.readFloat (Text.trim cell.toList) = .ok x)
      (records.filterMap (·.get? "time_ms")) samples := by
  refine (forall₂_of_mapM_eq_ok h).imp fun cell x hx => ?_
  split at hx
  · rename_i y hy
    rw [hy, Except.ok.inj hx]
  · cases hx

theorem rowSamples_eq_ok_iff {path : Path} {records : List Row} {samples : List Binary64} :
    rowSamples path records = .ok samples ↔
      List.Forall₂ (fun cell x => Decimal.readFloat (Text.trim cell.toList) = .ok x)
        (records.filterMap (·.get? "time_ms")) samples := by
  refine ⟨forall₂_of_rowSamples, fun h => mapM_eq_ok_iff.2 (h.imp fun cell x hx => ?_)⟩
  rw [hx]

/-- Let a file give rows to the table of summaries. Then the file is a table whose times are numbers.
Each row has the columns of the header but those of the sample, each once and at its first place, and
behind them the columns of the summary that are not among them. Under the columns of the summary
stands the summary of all times of the file. Under the others stand, in order, the cells of the first
records among those that differ in nothing but their samples. But the rows keep the records of the file
if and only if each record already had the cells of the summary in those columns of the summary that
the file has, as it is with any records when the file has none of these columns. -/
theorem summary_rows_keep_records_iff {e : Files.Entry} {rows : List Row}
    (h : e.contribution false = .ok rows) :
    ∃ (bytes : List UInt8) (header : List String) (cells : List (List String))
      (records : List Row) (samples : List Binary64),
      e.node = .file bytes ∧ Csv.read bytes = .ok (header, cells) ∧ e.rows = .ok records ∧
      List.Forall₂ (fun own record => Row.Holds own header record) records cells ∧
      List.Forall₂ (fun cell x => Decimal.readFloat (Text.trim cell.toList) = .ok x)
        (records.filterMap (·.get? "time_ms")) samples ∧
      let shared := (firsts header).filter fun column => column ≠ "iteration" ∧ column ≠ "time_ms"
      let summary := summaryCells (Summary.ofSamples samples)
      (∀ r ∈ rows, r.keys = shared ++ summaryColumns.filter (· ∉ shared)) ∧
      (∀ r ∈ rows, ∀ column cell, (column, cell) ∈ summary → r.get? column = some cell) ∧
      (∃ kept, kept <+ records ∧
        kept.Pairwise (fun own own' => ∃ column ∈ shared, own.get? column ≠ own'.get? column) ∧
        (∀ (i : Nat) (own : Row), records[i]? = some own → ∃ j ≤ i, ∃ first ∈ kept,
          records[j]? = some first ∧ ∀ column ∈ shared, first.get? column = own.get? column) ∧
        List.Forall₂ (fun r own => ∀ column ∈ shared, column ∉ summaryColumns →
          r.get? column = own.get? column) rows kept) ∧
      (KeepRecords records rows ↔ ∀ own ∈ records, ∀ column cell, (column, cell) ∈ summary →
        column ∈ header → own.get? column = some cell) ∧
      ((∀ column ∈ summaryColumns, column ∉ header) → KeepRecords records rows) := by
  obtain ⟨records, samples, hrecords, hsamples, rfl⟩ := Files.Entry.contribution_summary_iff.1 h
  obtain ⟨bytes, ⟨header, cells⟩, hn, hb, hcells⟩ := Files.Entry.exists_of_rows hrecords
  have hholds : List.Forall₂ (fun own record => Row.Holds own header record) records cells :=
    hcells ▸ holds_rowsOf hb
  have hkeys : ∀ own ∈ records, own.keys = firsts header := by
    intro own hown
    obtain ⟨record, -, hold : Row.Holds own header record⟩ :=
      exists_of_mem_of_forall₂ hholds.flip hown
    exact hold.columns
  have hiff : KeepRecords records (condense (Summary.ofSamples samples) records) ↔
      ∀ own ∈ records, ∀ column cell, (column, cell) ∈ summaryCells (Summary.ofSamples samples) →
        column ∈ header → own.get? column = some cell := by
    rw [keepRecords_condense_iff hkeys]
    refine forall₂_congr fun own hown => ?_
    rw [hkeys own hown]
    simp only [mem_firsts_iff]
  refine ⟨bytes, header, cells, records, samples, hn, hb, hrecords, hholds,
    forall₂_of_rowSamples hsamples, ?_, ?_, exists_firsts_condense hkeys _, hiff, ?_⟩
  · intro r hr
    obtain ⟨own, hown, rfl⟩ := exists_of_mem_condense hr
    rw [Row.keys_withSummary, Row.keys_withoutSample, hkeys own hown]
  · intro r hr column cell hcell
    obtain ⟨own, -, rfl⟩ := exists_of_mem_condense hr
    exact Row.get?_withSummary _ _ hcell
  · intro hnone
    exact hiff.2 fun own _ column cell hcell hcolumn =>
      (hnone column (mem_summaryColumns hcell) hcolumn).elim

/-- Samples of two sizes. -/
theorem summary_rows_keep_records_of_two_sizes :
    let bytes := Text.Utf8.bytes "size,iteration,time_ms\n10,0,1.5\n10,1,2.5\n20,0,3\n"
    let e : Files.Entry := ⟨⟨"runs/results.csv"⟩, .file bytes⟩
    ∃ records rows, e.rows = .ok records ∧ e.contribution false = .ok rows ∧ rows.length = 2 ∧
      KeepRecords records rows := by
  intro bytes e
  have hread : Csv.read bytes = .ok (["size", "iteration", "time_ms"],
      [["10", "0", "1.5"], ["10", "1", "2.5"], ["20", "0", "3"]]) :=
    eq_ok_of_toOption_eq_some (by decide +kernel)
  let records : List Row :=
    [.ofList [("size", "10"), ("iteration", "0"), ("time_ms", "1.5")],
      .ofList [("size", "10"), ("iteration", "1"), ("time_ms", "2.5")],
      .ofList [("size", "20"), ("iteration", "0"), ("time_ms", "3")]]
  have hrecords : e.rows = .ok records := Files.Entry.rows_of_read rfl hread
  have hsamples : rowSamples e.path records =
      .ok [⟨0x3FF8000000000000⟩, ⟨0x4004000000000000⟩, ⟨0x4008000000000000⟩] :=
    eq_ok_of_toOption_eq_some (by decide +kernel)
  have h := Files.Entry.contribution_summary_iff.2 ⟨_, _, hrecords, hsamples, rfl⟩
  obtain ⟨_, header, _, _, _, hn, hb, hown, -, -, -, -, -, -, hkeep⟩ :=
    summary_rows_keep_records_iff h
  cases hn
  rw [hread, Except.ok.injEq, Prod.mk.injEq] at hb
  obtain ⟨rfl, -⟩ := hb
  refine ⟨_, _, hown, h, ?_, hkeep (by decide)⟩
  unfold condense
  rw [List.length_map]
  decide +kernel

/-- Two records that differ only in a column that is called like one of the summary become two equal
rows. -/
theorem summary_rows_overwrite_cells :
    let bytes := Text.Utf8.bytes
      "benchmark,iteration,time_ms,min_time_ms\nsort,0,1.0,5\nsort,1,3.0,7\n"
    let e : Files.Entry := ⟨⟨"src/a/results.csv"⟩, .file bytes⟩
    ∃ records r, e.rows = .ok records ∧ e.contribution false = .ok [r, r] ∧
      ¬ KeepRecords records [r, r] := by
  intro bytes e
  have hread : Csv.read bytes = .ok (["benchmark", "iteration", "time_ms", "min_time_ms"],
      [["sort", "0", "1.0", "5"], ["sort", "1", "3.0", "7"]]) :=
    eq_ok_of_toOption_eq_some (by decide +kernel)
  let record : String → String → String → Row := fun iteration time least => .ofList
    [("benchmark", "sort"), ("iteration", iteration), ("time_ms", time), ("min_time_ms", least)]
  have hrecords : e.rows = .ok [record "0" "1.0" "5", record "1" "3.0" "7"] :=
    Files.Entry.rows_of_read rfl hread
  have hsamples : rowSamples e.path [record "0" "1.0" "5", record "1" "3.0" "7"] =
      .ok [⟨0x3FF0000000000000⟩, ⟨0x4008000000000000⟩] :=
    eq_ok_of_toOption_eq_some (by decide +kernel)
  have hfirsts : firsts ([record "0" "1.0" "5", record "1" "3.0" "7"].map Row.withoutSample) =
      [(record "0" "1.0" "5").withoutSample, (record "1" "3.0" "7").withoutSample] := by
    decide +kernel
  have hsame : ∀ summary, (record "0" "1.0" "5").withoutSample.withSummary summary =
      (record "1" "3.0" "7").withoutSample.withSummary summary := by
    intro summary
    exact OrderedMap.ext rfl
  let r : Row := (record "1" "3.0" "7").withoutSample.withSummary
    (Summary.ofSamples [⟨0x3FF0000000000000⟩, ⟨0x4008000000000000⟩])
  have h : e.contribution false = .ok [r, r] := by
    refine Files.Entry.contribution_summary_iff.2 ⟨_, _, hrecords, hsamples, ?_⟩
    unfold condense
    rw [hfirsts, List.map_cons, List.map_singleton, hsame]
  exact ⟨_, r, hrecords, h, fun hkeep => (List.nodup_cons.1 hkeep.distinct).1 List.mem_cons_self⟩

end BenchSweep
