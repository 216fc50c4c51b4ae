import BenchSweep.Proofs.ColumnUnion

/-! Collecting what was collected. In writing a raw table has a cell for every row under every column,
so the table that is collected from it has these cells as rows, and in writing it is the same. -/
set_option autoImplicit false

namespace BenchSweep

variable {σ τ : Type}

namespace Table

/-! ## Filled rows -/

section Filled

variable {t : Table}

/-- The row with a cell under every column of the table. -/
def filled (t : Table) (r : Row) : Row := OrderedMap.ofList (t.columns.zip (t.record r))

/-- The table of all filled rows. -/
def refilled (t : Table) : Table := (t.rows.map t.filled).foldl push empty

variable (h : t.columns.Nodup)

include h

theorem keys_filled (r : Row) : (t.filled r).keys = t.columns :=
  OrderedMap.keys_ofList_zip_map h _

theorem get?_filled (r : Row) {column : String} (hc : column ∈ t.columns) :
    (t.filled r).get? column = some ((r.get? column).getD "") :=
  OrderedMap.get?_ofList_zip_map h _ hc

omit h in
theorem rows_refilled (t : Table) : t.refilled.rows = t.rows.map t.filled :=
  rows_foldl_push _ empty

/-- A table has no columns but those of its rows, and the filled rows have all of these. -/
theorem columns_refilled (hempty : t.rows = [] → t.columns = []) :
    t.refilled.columns = t.columns := by
  have hkeys : ∀ r ∈ t.rows.map t.filled, r.keys = t.columns := by
    intro r hr
    obtain ⟨r, -, rfl⟩ := List.mem_map.1 hr
    exact keys_filled h r
  by_cases hne : t.rows = []
  · unfold refilled
    rw [hne, hempty hne]
    rfl
  · exact columns_of_rows hkeys (mt List.map_eq_nil_iff.1 hne)

/-- Under the same columns filled rows are written as they were before. -/
theorem write_refilled (hempty : t.rows = [] → t.columns = []) : t.refilled.write = t.write := by
  have hrecord : ∀ r ∈ t.rows, t.refilled.record (t.filled r) = t.record r := by
    intro r _
    unfold record
    rw [columns_refilled h hempty]
    refine List.map_congr_left fun column hcolumn => ?_
    rw [get?_filled h r hcolumn]
    rfl
  unfold write
  rw [columns_refilled h hempty, rows_refilled, List.map_map]
  exact congrArg (fun records => Csv.write (t.columns :: records)) (List.map_congr_left hrecord)

end Filled

/-! ## Tables of runs -/

/-- Rows more add their columns at the end. -/
theorem columns_isPrefix_foldl_push (rows : List Row) (t : Table) :
    t.columns <+: (rows.foldl push t).columns := by
  induction rows generalizing t with
  | nil => exact List.prefix_rfl
  | cons r rows ih =>
    have hpush : t.columns <+: (t.push r).columns := List.prefix_append _ _
    exact hpush.trans (ih (t.push r))

theorem nodup_columns (rows : List Row) : (rows.foldl push empty).columns.Nodup := by
  rw [columns_eq_firsts]
  exact nodup_firsts _

/-- A table with a row of a run opens with the column of the benchmark. -/
theorem exists_columns_of_runs {order : List Measured} (h : order.flatMap Measured.rows ≠ []) :
    ∃ rest, ((order.flatMap Measured.rows).foldl push empty).columns = "benchmark" :: rest := by
  obtain ⟨r, rows, hrows⟩ := List.exists_cons_of_ne_nil h
  obtain ⟨m, -, hr⟩ := List.mem_flatMap.1 (show r ∈ order.flatMap Measured.rows by simp [hrows])
  obtain ⟨s, -, rfl⟩ := List.mem_map.1 hr
  have hfirst : (empty.push (m.1.row s)).columns = m.1.header := by
    unfold push empty
    simp [m.1.keys_row s]
  obtain ⟨more, hmore⟩ := columns_isPrefix_foldl_push rows (empty.push (m.1.row s))
  rw [hrows, List.foldl_cons, ← hmore, hfirst]
  exact ⟨_, rfl⟩

/-- The file of a table of runs gives a filled row for each of its rows. Without rows there is no
column either, and the file has an empty column but no record. -/
theorem contribution_of_runs {order : List Measured} {t : Table} {e : Files.Entry}
    {bytes : List UInt8} (ht : (order.flatMap Measured.rows).foldl push empty = t)
    (hbytes : t.write = .ok bytes) (hn : e.node = .file bytes) :
    e.contribution true = .ok (t.rows.map t.filled) := by
  rw [write_eq_lines, Except.ok.injEq] at hbytes
  subst hbytes
  by_cases hrows : order.flatMap Measured.rows = []
  · rw [hrows] at ht
    subst ht
    have hread : Csv.read (Csv.lines [[]]) = .ok ([""], []) :=
      eq_ok_of_toOption_eq_some (by decide +kernel)
    exact contribution_raw hn hread
  · obtain ⟨rest, hcolumns⟩ := exists_columns_of_runs hrows
    rw [ht] at hcolumns
    have hread : Csv.read (Csv.lines (t.columns :: t.rows.map t.record)) =
        .ok (t.columns, t.rows.map t.record) := by
      refine Csv.read_lines (by rw [hcolumns]; exact List.cons_ne_nil _ _) ?_ ?_
      · intro record hrecord
        obtain ⟨r, -, rfl⟩ := List.mem_map.1 hrecord
        exact List.length_map _
      · rw [hcolumns]
        exact RunContext.isPrefixOf_name_eq_false _ _
    rw [contribution_raw hn hread]
    unfold rowsOf
    rw [List.map_map]
    rfl

end Table

/-! ## Files of runs -/

/-- Whether a file was written by a run. It is read back as the header and the records of this run. -/
def Measured.Wrote (m : Measured) (e : Files.Entry) : Prop :=
  ∃ bytes, m.1.write m.2 = .ok bytes ∧ e.node = .file bytes ∧
    Csv.read bytes = .ok (m.1.header, m.1.records m.2)

namespace Measured

theorem wrote_of_write {c : RunContext} {times : List Binary64} {bytes : List UInt8}
    {e : Files.Entry} (hw : c.write times = .ok bytes) (hn : e.node = .file bytes) :
    Wrote (c, times) e := by
  refine ⟨bytes, hw, hn, ?_⟩
  rw [c.write_eq_table, Except.ok.injEq] at hw
  rw [← hw]
  exact c.read_table times

theorem Wrote.node_eq {m : Measured} {e : Files.Entry} (h : m.Wrote e) : e.node = m.node := by
  obtain ⟨bytes, hw, hn, -⟩ := h
  rw [m.1.write_eq_table, Except.ok.injEq] at hw
  exact hn.trans (congrArg Node.file hw.symm)

end Measured

/-! ## Collecting again -/

/-- Let all files of results below a source be written by runs, and let their raw table be written: its
rows are those of the runs, file after file, and its columns those of its rows at their first
appearance. Take a place where this is the only file of results, and collect it raw once more: this
gives a table with the same columns and as many rows, in which each row has under every column the
cell of the row that stood in its place, or an empty one if that had none. In writing this table is
the same, byte for byte. -/
theorem collected_table_is_fixed {w : World σ} {source : Path}
    (hwritten : ∀ e ∈ w.files.results source,
      ∃ (c : RunContext) (times : List Binary64) (bytes : List UInt8),
        c.write times = .ok bytes ∧ e.node = .file bytes) :
    ∃ (runs : List Measured) (t : Table) (w' : World σ) (bytes : List UInt8),
      List.Forall₂ (fun e m => m.Wrote e) (w.files.results source) runs ∧
      (collect true source).on w = (.ok t, w') ∧
      t.rows = runs.flatMap (fun m => (Sample.number m.2).map m.1.row) ∧
      t.columns = firsts (t.rows.flatMap OrderedMap.keys) ∧ t.write = .ok bytes ∧
      ∀ (v : World τ) (source' : Path) (e : Files.Entry), v.files.results source' = [e] →
        e.node = .file bytes →
          ∃ t' v', (collect true source').on v = (.ok t', v') ∧ t'.columns = t.columns ∧
            t'.rows.length = t.rows.length ∧
            (∀ (k : Nat) (row : Row), t.rows[k]? = some row → ∃ row', t'.rows[k]? = some row' ∧
              row'.keys = t.columns ∧
              ∀ column ∈ t.columns, row'.get? column = some ((row.get? column).getD "")) ∧
            t'.write = .ok bytes := by
  obtain ⟨runs, hruns⟩ : ∃ runs, List.Forall₂ (fun e (m : Measured) => m.Wrote e)
      (w.files.results source) runs := by
    refine exists_forall₂ fun e he => ?_
    obtain ⟨c, times, bytes, hw, hn⟩ := hwritten e he
    exact ⟨(c, times), Measured.wrote_of_write hw hn⟩
  have hnodes : (w.files.results source).map Files.Entry.node = runs.map Measured.node :=
    Measured.map_node_eq_iff.2 (hruns.imp fun _ _ => Measured.Wrote.node_eq)
  obtain ⟨w', hcollect⟩ := on_collect_of_runs Measured.contribution_raw hnodes
  generalize ht : (runs.flatMap Measured.rows).foldl Table.push Table.empty = t at hcollect
  have hrows : t.rows = runs.flatMap Measured.rows := ht ▸ Table.rows_foldl_push _ Table.empty
  have hcolumns : t.columns = firsts (t.rows.flatMap OrderedMap.keys) := by
    rw [hrows, ← ht]
    exact Table.columns_eq_firsts _
  have hnodup : t.columns.Nodup := ht ▸ Table.nodup_columns _
  have hempty : t.rows = [] → t.columns = [] := by
    intro hnil
    rw [hcolumns, hnil]
    rfl
  refine ⟨runs, t, w', _, hruns, hcollect, hrows, hcolumns, t.write_eq_lines,
    fun v source' e he hn => ?_⟩
  obtain ⟨v', hv⟩ := on_collect_of_single true he
    (Table.contribution_of_runs ht t.write_eq_lines hn)
  refine ⟨t.refilled, v', hv, Table.columns_refilled hnodup hempty, ?_, ?_, ?_⟩
  · rw [Table.rows_refilled, List.length_map]
  · intro k row hk
    refine ⟨t.filled row, ?_, Table.keys_filled hnodup row,
      fun column hcolumn => Table.get?_filled hnodup row hcolumn⟩
    rw [Table.rows_refilled, List.getElem?_map, hk]
    rfl
  · rw [Table.write_refilled hnodup hempty, t.write_eq_lines]

/-- Two runs with different parameters, one of them without samples. -/
theorem collected_table_is_fixed_of_two_runs :
    let c : RunContext := ⟨"b,\n", "t", ⟨1, 2⟩, .ofList [("mode", .text "\"")], .empty⟩
    let c' : RunContext := ⟨"b", "é", ⟨1, 2⟩, .ofList [("depth", .text "")], .empty⟩
    let first : List UInt8 := c.table [Binary64.ofInt 1, Binary64.ofInt 2]
    let second : List UInt8 := c'.table []
    let w : World Unit := ⟨⟨.ofList [(["runs"], .directory),
      (["runs", "a", "results.csv"], .file first), (["runs", "b", "results.csv"], .file second)],
      []⟩, 0, [], ()⟩
    let v (bytes : List UInt8) : World Unit := ⟨⟨.ofList [(["all"], .directory),
      (["all", "results.csv"], .file bytes)], []⟩, 0, [], ()⟩
    ∃ t w' bytes, (collect true ⟨"runs"⟩).on w = (.ok t, w') ∧ t.write = .ok bytes ∧
      ∃ t' v', (collect true ⟨"all"⟩).on (v bytes) = (.ok t', v') ∧ t'.write = .ok bytes := by
  intro c c' first second w v
  have hfiles : w.files.results ⟨"runs"⟩ = [⟨⟨"runs/a/results.csv"⟩, .file first⟩,
      ⟨⟨"runs/b/results.csv"⟩, .file second⟩] := by
    have hbelow : w.files.below ["runs"] =
        [(["a", "results.csv"], .file first), (["b", "results.csv"], .file second)] :=
      List.mergeSort_of_pairwise (by decide +kernel)
    rw [Files.results_of_below (by decide +kernel) (by decide +kernel) hbelow]
    decide +kernel
  have hone : ∀ bytes, (v bytes).files.results ⟨"all"⟩ =
      [⟨⟨"all/results.csv"⟩, .file bytes⟩] := by
    intro bytes
    have hnamed : (v bytes).files.Named :=
      show ∀ l ∈ [["all"], ["all", "results.csv"]], ∀ name ∈ l, Path.IsName name by decide +kernel
    have hbelow : (v bytes).files.below ["all"] = [(["results.csv"], .file bytes)] :=
      List.mergeSort_of_pairwise (List.pairwise_singleton _ _)
    have hchild : Path.child ⟨"all"⟩ "results.csv" = ⟨"all/results.csv"⟩ := by decide +kernel
    rw [Files.results_of_below hnamed rfl hbelow]
    simp [hchild, resultsName]
  have hwritten : ∀ e ∈ w.files.results ⟨"runs"⟩,
      ∃ (c : RunContext) (times : List Binary64) (bytes : List UInt8),
        c.write times = .ok bytes ∧ e.node = .file bytes := by
    rw [hfiles]
    exact List.forall_mem_cons.2 ⟨⟨c, _, _, c.write_eq_table _, rfl⟩,
      List.forall_mem_singleton.2 ⟨c', _, _, c'.write_eq_table _, rfl⟩⟩
  obtain ⟨-, t, w', bytes, -, hcollect, -, -, hwrite, hagain⟩ :=
    collected_table_is_fixed hwritten
  obtain ⟨t', v', hcollect', -, -, -, hwrite'⟩ := hagain (v bytes) ⟨"all"⟩ _ (hone bytes) rfl
  exact ⟨t, w', bytes, hcollect, hwrite, t', v', hcollect', hwrite'⟩

end BenchSweep
