import BenchSweep.Proofs.Firsts
import BenchSweep.Proofs.Gathering

/-! The raw table of many files. Its rows are the records of the files in the order of their paths, its
columns those of all rows at their first appearance, and in writing every row has its cells under its
own columns and nothing under the others. -/
set_option autoImplicit false

namespace BenchSweep

variable {σ : Type}

/-! ## Rows and records -/

/-- Whether a row holds the cells of a record: the columns of the header, each at its first place, and
of columns with one name the last cell. -/
structure Row.Holds (r : Row) (header record : List String) : Prop where
  columns : r.keys = firsts header
  cells : ∀ (j : Nat) (column : String), header[j]? = some column →
    column ∉ header.drop (j + 1) → r.get? column = record[j]?

theorem Row.holds_ofList {header record : List String} (h : record.length = header.length) :
    Row.Holds (OrderedMap.ofList (header.zip record)) header record where
  columns := by rw [OrderedMap.keys_ofList, List.map_fst_zip (Nat.le_of_eq h.symm)]
  cells j column hj hlast := by
    obtain ⟨hheader, rfl⟩ := List.getElem?_eq_some_iff.1 hj
    have hrecord : j < record.length := h ▸ hheader
    have hzip : j < (header.zip record).length := by
      rw [List.length_zip]
      exact Nat.lt_min.2 ⟨hheader, hrecord⟩
    have hsplit : header.zip record = (header.zip record).take j ++
        (header[j], record[j]) :: (header.zip record).drop (j + 1) := by
      conv_lhs => rw [← List.take_append_drop j (header.zip record),
        List.drop_eq_getElem_cons hzip, List.getElem_zip]
    have hafter : ((header.zip record).drop (j + 1)).map Prod.fst = header.drop (j + 1) := by
      rw [List.map_drop, List.map_fst_zip (Nat.le_of_eq h.symm)]
    rw [hsplit, OrderedMap.get?_ofList (by rwa [hafter]), List.getElem?_eq_getElem hrecord]

namespace Table

/-! ## Columns -/

/-- A row more leaves the columns first appearances. -/
theorem columns_push {t : Table} {names : List String} (h : t.columns = firsts names) (r : Row) :
    (t.push r).columns = firsts (names ++ r.keys) := by
  unfold push
  dsimp only
  rw [h, firsts_append r.nodup_keys]

theorem columns_eq_firsts (rows : List Row) :
    (rows.foldl push empty).columns = firsts (rows.flatMap OrderedMap.keys) := by
  induction rows using List.reverseRecOn with
  | nil => rfl
  | append_singleton rows r ih =>
    rw [List.foldl_concat, columns_push ih, List.flatMap_append, List.flatMap_singleton]

theorem write_eq_lines (t : Table) :
    t.write = .ok (Csv.lines (t.columns :: t.rows.map t.record)) := by
  refine Csv.write_eq_lines fun cells h => ?_
  obtain ⟨r, -, rfl⟩ := List.mem_map.1 h
  exact List.length_map _

end Table

/-! ## Files -/

namespace Files

variable {fs : Files} {source : Path} {place : Location}

theorem pairwise_results (h : fs.Named) (source : Path) :
    (fs.results source).Pairwise fun e e' => List.Lex (· < ·) e.path.parts e'.path.parts :=
  (pairwise_walk h source).filter _

theorem mem_results_iff (h : fs.Named) (hf : fs.find source = .ok (place, .directory))
    {e : Entry} :
    e ∈ fs.results source ↔ ∃ names : List String, names.getLast? = some resultsName ∧
      fs.leaf? (place ++ names) = some e.node ∧ e.path = names.foldl Path.child source := by
  rw [results_eq h hf, List.mem_map]
  constructor
  · rintro ⟨⟨names, node⟩, hm, rfl⟩
    obtain ⟨hlast, hleaf⟩ := mem_resultsBelow_iff.1 hm
    exact ⟨names, hlast, hleaf, rfl⟩
  · rintro ⟨names, hlast, hleaf, hpath⟩
    obtain ⟨path, node⟩ := e
    cases hpath
    exact ⟨(names, node), mem_resultsBelow_iff.2 ⟨hlast, hleaf⟩, rfl⟩

end Files

/-! ## Rows of tables that were read -/

/-- The rows of a table under its header. -/
def rowsOf (table : List String × List (List String)) : List Row :=
  table.2.map fun record => OrderedMap.ofList (table.1.zip record)

theorem holds_rowsOf {bytes : List UInt8} {table : List String × List (List String)}
    (hb : Csv.read bytes = .ok table) :
    List.Forall₂ (fun row record => Row.Holds row table.1 record) (rowsOf table) table.2 := by
  unfold rowsOf
  rw [List.forall₂_map_left_iff, List.forall₂_same]
  exact fun record hrecord => Row.holds_ofList (Csv.length_of_read hb record hrecord)

theorem keys_of_mem_rowsOf {bytes : List UInt8} {table : List String × List (List String)}
    (hb : Csv.read bytes = .ok table) {r : Row} (h : r ∈ rowsOf table) : r.keys = firsts table.1 := by
  obtain ⟨record, -, hold : Row.Holds r table.1 record⟩ :=
    exists_of_mem_of_forall₂ (holds_rowsOf hb).flip h
  exact hold.columns

theorem holds_flatMap_rowsOf {tables : List (List String × List (List String))}
    (h : ∀ table ∈ tables, ∃ bytes, Csv.read bytes = .ok table) :
    List.Forall₂ (fun row (r : List String × List String) => Row.Holds row r.1 r.2)
      (tables.flatMap rowsOf)
      (tables.flatMap fun table => table.2.map fun record => (table.1, record)) := by
  induction tables with
  | nil => exact .nil
  | cons table tables ih =>
    obtain ⟨⟨bytes, hb⟩, hrest⟩ := List.forall_mem_cons.1 h
    rw [List.flatMap_cons, List.flatMap_cons]
    refine List.rel_append ?_ (ih hrest)
    rw [List.forall₂_map_right_iff]
    exact holds_rowsOf hb

theorem contribution_raw {e : Files.Entry} {bytes : List UInt8}
    {table : List String × List (List String)} (hn : e.node = .file bytes)
    (hb : Csv.read bytes = .ok table) : e.contribution true = .ok (rowsOf table) := by
  unfold Files.Entry.contribution
  rw [Files.Entry.rows_of_read hn hb]
  rfl

/-- Let all files of results below a source be readable. Then collecting them raw gives a table. The
files are read in the order of their paths, and the table has a row for each of their records, in the
order of the files and of the records in each. Its columns are those of its rows, each once and in the
order of first appearance. The table is always written, and each line has for each column the cell of
its row, or an empty one if the row has no such column. -/
theorem collect_unites_columns {w : World σ} (source : Path) (htree : w.files.Named)
    (hread : ∀ e ∈ w.files.results source, ∃ bytes table,
      e.node = .file bytes ∧ Csv.read bytes = .ok table) :
    let files := w.files.results source
    (∀ place, w.files.find source = .ok (place, .directory) → ∀ e, e ∈ files ↔
      ∃ names : List String, names.getLast? = some "results.csv" ∧
        w.files.leaf? (place ++ names) = some e.node ∧ e.path = names.foldl Path.child source) ∧
    files.Pairwise (fun e e' => List.Lex (· < ·) e.path.parts e'.path.parts) ∧
    ∃ (tables : List (List String × List (List String))) (t : Table) (w' : World σ),
      List.Forall₂ (fun e table => ∃ bytes, e.node = .file bytes ∧ Csv.read bytes = .ok table)
        files tables ∧
      (collect true source).on w = (.ok t, w') ∧
      List.Forall₂ (fun row (r : List String × List String) => Row.Holds row r.1 r.2) t.rows
        (tables.flatMap fun table => table.2.map fun record => (table.1, record)) ∧
      t.columns = firsts (t.rows.flatMap OrderedMap.keys) ∧ t.columns.Nodup ∧
      (∀ row ∈ t.rows, ∀ column ∈ row.keys, column ∈ t.columns) ∧
      t.columns.Pairwise (fun c d => (t.rows.flatMap OrderedMap.keys).idxOf c <
        (t.rows.flatMap OrderedMap.keys).idxOf d) ∧
      let cells := t.rows.map fun row => t.columns.map fun column => (row.get? column).getD ""
      ∃ bytes, t.write = .ok bytes ∧ bytes = Csv.lines (t.columns :: cells) ∧
        (t.columns ≠ [] → Csv.records bytes = (t.columns :: cells).map fun record =>
          record.map Text.Utf8.bytes) := by
  intro files
  refine ⟨fun place hf e => Files.mem_results_iff htree hf,
    Files.pairwise_results htree source, ?_⟩
  obtain ⟨tables, htables⟩ := exists_forall₂ (R := fun (e : Files.Entry) table =>
    ∃ bytes, e.node = .file bytes ∧ Csv.read bytes = .ok table)
    fun e he => (hread e he).elim fun bytes ⟨table, h⟩ => ⟨table, bytes, h⟩
  have hblocks : List.Forall₂ (fun e rows => Files.Entry.contribution true e = .ok rows) files
      (tables.map rowsOf) := by
    rw [List.forall₂_map_right_iff]
    exact htables.imp fun e table ⟨bytes, hn, hb⟩ => contribution_raw hn hb
  obtain ⟨w', hcollect⟩ := on_collect hblocks
  rw [← List.flatMap_def] at hcollect
  have hrows : ((tables.flatMap rowsOf).foldl Table.push Table.empty).rows = tables.flatMap rowsOf :=
    Table.rows_foldl_push _ _
  have hcolumns := Table.columns_eq_firsts (tables.flatMap rowsOf)
  refine ⟨tables, _, w', htables, hcollect, ?_, ?_, ?_, ?_, ?_, ?_⟩
  · rw [hrows]
    refine holds_flatMap_rowsOf fun table htable => ?_
    obtain ⟨-, -, bytes, -, hb⟩ := exists_of_mem_of_forall₂ htables htable
    exact ⟨bytes, hb⟩
  · rw [hcolumns, hrows]
  · rw [hcolumns]
    exact nodup_firsts _
  · rw [hcolumns, hrows]
    intro row hrow column hcolumn
    exact mem_firsts_iff.2 (List.mem_flatMap.2 ⟨row, hrow, hcolumn⟩)
  · rw [hcolumns, hrows]
    exact pairwise_firsts _
  · intro cells
    refine ⟨_, Table.write_eq_lines _, rfl, fun hne => Csv.records_lines ?_⟩
    intro record hrecord
    rcases List.mem_cons.1 hrecord with rfl | hrecord
    · exact hne
    · obtain ⟨row, -, rfl⟩ := List.mem_map.1 hrecord
      exact mt List.map_eq_nil_iff.1 hne

/-- A file that repeats a column, and another one with a column of its own. -/
theorem collect_unites_columns_of_two_files :
    let first := Text.Utf8.bytes "a,b,a\n1,2,3\n"
    let second := Text.Utf8.bytes "b,c\n4,5\n\"x,y\",\n"
    let w : World Unit := ⟨⟨.ofList [(["runs"], .directory),
      (["runs", "a", "results.csv"], .file first), (["runs", "b", "results.csv"], .file second)],
      []⟩, 0, [], ()⟩
    ∃ t w', (collect true ⟨"runs"⟩).on w = (.ok t, w') ∧ t.columns = ["a", "b", "c"] ∧
      t.rows.length = 3 ∧ (t.rows[0]?).bind (·.get? "a") = some "3" ∧
      (t.rows[2]?).bind (·.get? "b") = some "x,y" := by
  intro first second w
  let e : Files.Entry := ⟨⟨"runs/a/results.csv"⟩, .file first⟩
  let e' : Files.Entry := ⟨⟨"runs/b/results.csv"⟩, .file second⟩
  have hfiles : w.files.results ⟨"runs"⟩ = [e, e'] := by
    have hfind : w.files.find ⟨"runs"⟩ = .ok (["runs"], .directory) := by decide +kernel
    have hbelow : w.files.below ["runs"] =
        [(["a", "results.csv"], .file first), (["b", "results.csv"], .file second)] :=
      List.mergeSort_of_pairwise (by decide +kernel)
    unfold Files.results Files.walk
    rw [hfind]
    dsimp only
    rw [hbelow]
    decide +kernel
  have hfirst : Csv.read first = .ok (["a", "b", "a"], [["1", "2", "3"]]) :=
    eq_ok_of_toOption_eq_some (by decide +kernel)
  have hsecond : Csv.read second = .ok (["b", "c"], [["4", "5"], ["x,y", ""]]) :=
    eq_ok_of_toOption_eq_some (by decide +kernel)
  obtain ⟨-, -, tables, t, w', htables, hcollect, hrows, hcolumns, -⟩ :=
    collect_unites_columns (w := w) ⟨"runs"⟩ (by decide +kernel) (by
      rw [hfiles]
      exact List.forall_mem_cons.2 ⟨⟨first, _, rfl, hfirst⟩,
        List.forall_mem_singleton.2 ⟨second, _, rfl, hsecond⟩⟩)
  rw [hfiles] at htables
  obtain ⟨_, _, ⟨_, hn, hb⟩, hrest, rfl⟩ := List.forall₂_cons_left_iff.1 htables
  obtain ⟨_, _, ⟨_, hn', hb'⟩, hnil, rfl⟩ := List.forall₂_cons_left_iff.1 hrest
  obtain rfl := List.forall₂_nil_left_iff.1 hnil
  cases hn
  cases hn'
  rw [hfirst, Except.ok.injEq] at hb
  rw [hsecond, Except.ok.injEq] at hb'
  subst hb hb'
  obtain ⟨r, _, hr, hmore, ht⟩ := List.forall₂_cons_right_iff.1 hrows
  obtain ⟨r', _, hr', hmore', rfl⟩ := List.forall₂_cons_right_iff.1 hmore
  obtain ⟨r'', _, hr'', hnone, rfl⟩ := List.forall₂_cons_right_iff.1 hmore'
  obtain rfl := List.forall₂_nil_right_iff.1 hnone
  refine ⟨t, w', hcollect, ?_, by rw [ht]; rfl, ?_, ?_⟩
  · rw [hcolumns, ht, List.flatMap_cons, List.flatMap_cons, List.flatMap_singleton, hr.columns,
      hr'.columns, hr''.columns]
    decide
  · rw [ht]
    exact hr.cells 2 "a" rfl (by decide)
  · rw [ht]
    exact hr''.cells 0 "b" rfl (by decide)

end BenchSweep
