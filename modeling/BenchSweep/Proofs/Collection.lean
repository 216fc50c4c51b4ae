import BenchSweep.Plan
import BenchSweep.Proofs.Decimal
import BenchSweep.Proofs.Firsts
import BenchSweep.Proofs.Plan

/-! Results that are collected are those that were written. A row is read back with the cells of its
sample, and what samples of one run do not share is only their number and their time, so that their
rows become one as soon as these two are taken away. -/
set_option autoImplicit false

namespace BenchSweep

variable {σ : Type}

/-! ## Rows without their samples -/

namespace Row

theorem keys_withoutSample (r : Row) :
    r.withoutSample.keys =
      r.keys.filter fun column => column ≠ "iteration" ∧ column ≠ "time_ms" := by
  unfold withoutSample
  rw [OrderedMap.keys_erase, OrderedMap.keys_erase, List.filter_filter]
  simp

theorem mem_keys_withoutSample_iff {r : Row} {column : String} :
    column ∈ r.withoutSample.keys ↔ column ∈ r.keys ∧ column ≠ "iteration" ∧ column ≠ "time_ms" := by
  rw [keys_withoutSample, List.mem_filter, decide_eq_true_iff]

theorem get?_withoutSample (r : Row) {column : String} (hi : column ≠ "iteration")
    (ht : column ≠ "time_ms") : r.withoutSample.get? column = r.get? column := by
  unfold withoutSample
  rw [OrderedMap.get?_erase, if_neg hi, OrderedMap.get?_erase, if_neg ht]

/-- Rows with the same columns are the same but for their samples if they have the same cells in the
other columns. -/
theorem withoutSample_eq_iff {r r' : Row} (hkeys : r.keys = r'.keys) :
    r.withoutSample = r'.withoutSample ↔
      ∀ column ∈ r.withoutSample.keys, r.get? column = r'.get? column := by
  have hget : ∀ column ∈ r.withoutSample.keys, r.withoutSample.get? column = r.get? column ∧
      r'.withoutSample.get? column = r'.get? column := by
    intro column hcolumn
    obtain ⟨-, hi, ht⟩ := mem_keys_withoutSample_iff.1 hcolumn
    exact ⟨get?_withoutSample r hi ht, get?_withoutSample r' hi ht⟩
  constructor
  · intro h column hcolumn
    obtain ⟨hr, hr'⟩ := hget column hcolumn
    rw [← hr, ← hr', h]
  · intro h
    refine OrderedMap.ext_of_keys (by rw [keys_withoutSample, keys_withoutSample, hkeys]) ?_
    intro column hcolumn
    obtain ⟨hr, hr'⟩ := hget column hcolumn
    rw [hr, hr', h column hcolumn]

end Row

/-! ## Rows of one run -/

namespace RunContext

/-- The row of a sample. -/
def row (c : RunContext) (s : Sample) : Row := OrderedMap.ofList (c.header.zip (c.record s))

theorem entries_row (c : RunContext) (s : Sample) :
    (c.row s).entries = c.header.map fun column => (column, c.cell s column) :=
  OrderedMap.entries_ofList_zip_map c.nodup_header _

theorem keys_row (c : RunContext) (s : Sample) : (c.row s).keys = c.header :=
  OrderedMap.keys_ofList_zip_map c.nodup_header _

theorem get?_row {c : RunContext} {column : String} (h : column ∈ c.header) (s : Sample) :
    (c.row s).get? column = some (c.cell s column) :=
  OrderedMap.get?_ofList_zip_map c.nodup_header _ h

theorem readRows_table (c : RunContext) (times : List Binary64) :
    readRows (c.table times) = .ok ((Sample.number times).map c.row) := by
  unfold readRows
  rw [read_table, records]
  dsimp only [Except.map]
  rw [List.map_map]
  rfl

/-! ## What samples share -/

/-- The columns that all samples of a run share. -/
def sharedColumns (c : RunContext) : List String :=
  c.header.filter fun column => column ≠ "iteration" ∧ column ≠ "time_ms"

theorem keys_withoutSample (c : RunContext) (s : Sample) :
    (c.row s).withoutSample.keys = c.sharedColumns := by
  rw [Row.keys_withoutSample, keys_row]
  rfl

theorem withoutSample_row (c : RunContext) (s s' : Sample) :
    (c.row s).withoutSample = (c.row s').withoutSample := by
  refine (Row.withoutSample_eq_iff (by rw [keys_row, keys_row])).2 fun column hcolumn => ?_
  obtain ⟨hc, hi, ht⟩ := Row.mem_keys_withoutSample_iff.1 hcolumn
  rw [keys_row] at hc
  rw [get?_row hc, get?_row hc, c.cell_eq_of_shared hi ht s s']

end RunContext

/-! ## Summaries -/

theorem Summary.exists_ofSamples {samples : List Binary64} (h : samples ≠ []) :
    ∃ summary, Summary.ofSamples samples = some summary := by
  have hs : sorted samples ≠ [] := by
    intro hn
    have hl := (List.mergeSort_perm samples Binary64.le).length_eq
    rw [show samples.mergeSort Binary64.le = [] from hn] at hl
    exact h (List.length_eq_zero_iff.1 hl.symm)
  obtain ⟨a, ha⟩ := Option.isSome_iff_exists.1 (List.isSome_head?.2 hs)
  obtain ⟨b, hb⟩ := Option.isSome_iff_exists.1 (List.getLast?_isSome.2 hs)
  unfold ofSamples
  dsimp only
  rw [ha, hb]
  exact ⟨_, rfl⟩

theorem Summary.ofSamples_nil : Summary.ofSamples [] = none := by
  simp [ofSamples, sorted]

theorem rowSamples_rows (path : Path) (c : RunContext) (times : List Binary64) :
    rowSamples path ((Sample.number times).map c.row) = .ok (times.map Binary64.reread) := by
  have hcell : ∀ s : Sample, (c.row s).get? "time_ms" = some (floatText s.time) :=
    RunContext.get?_row (List.mem_append_left _ (by decide))
  have htimes : (Sample.number times).map Sample.time = times := by
    unfold Sample.number
    rw [List.map_map]
    exact List.zipIdx_map_fst 0 times
  have hcells : ((Sample.number times).map c.row).filterMap (·.get? "time_ms") =
      times.map floatText := by
    rw [List.filterMap_map, show ((·.get? "time_ms") ∘ c.row) = (some ∘ floatText ∘ Sample.time)
      from funext hcell, List.filterMap_eq_map, ← List.map_map, htimes]
  unfold rowSamples
  rw [hcells, List.mapM_map]
  refine mapM_eq_ok_map fun x _ => ?_
  dsimp only [Function.comp_apply]
  rw [trim_floatText, readFloat_floatText]

/-- The columns of a summary. -/
def summaryColumns : List String := ["min_time_ms", "max_time_ms", "median_time_ms", "mean_time_ms"]

theorem nodup_summaryCells (summary : Option Summary) :
    ((summaryCells summary).map Prod.fst).Nodup := by
  change summaryColumns.Nodup
  decide

theorem mem_summaryColumns {summary : Option Summary} {column cell : String}
    (h : (column, cell) ∈ summaryCells summary) : column ∈ summaryColumns :=
  List.mem_map_of_mem (f := Prod.fst) h

namespace Row

theorem keys_withSummary (r : Row) (summary : Option Summary) :
    (r.withSummary summary).keys = r.keys ++ summaryColumns.filter (· ∉ r.keys) :=
  OrderedMap.keys_foldl_insert (nodup_summaryCells summary) r

theorem get?_withSummary_of_not_mem (r : Row) (summary : Option Summary) {column : String}
    (h : column ∉ summaryColumns) : (r.withSummary summary).get? column = r.get? column :=
  OrderedMap.get?_foldl_insert_of_not_mem h r

theorem get?_withSummary (r : Row) (summary : Option Summary) {column cell : String}
    (h : (column, cell) ∈ summaryCells summary) :
    (r.withSummary summary).get? column = some cell :=
  OrderedMap.get?_foldl_insert (nodup_summaryCells summary) h r

end Row

namespace RunContext

/-- The row of all samples together, under the summary of their times. -/
def summaryRow (c : RunContext) (summary : Summary) : Row :=
  (c.row ⟨0, Binary64.zero⟩).withoutSample.withSummary (some summary)

theorem keys_summaryRow (c : RunContext) (summary : Summary) :
    (c.summaryRow summary).keys =
      c.sharedColumns ++ summaryColumns.filter (· ∉ c.sharedColumns) := by
  unfold summaryRow
  rw [Row.keys_withSummary, keys_withoutSample]

theorem get?_summaryRow_of_shared (c : RunContext) (summary : Summary) {column : String}
    (hc : column ∈ c.sharedColumns) (hs : column ∉ summaryColumns) (s : Sample) :
    (c.summaryRow summary).get? column = some (c.cell s column) := by
  unfold summaryRow
  rw [← c.keys_withoutSample s, Row.mem_keys_withoutSample_iff, keys_row] at hc
  rw [Row.get?_withSummary_of_not_mem _ _ hs, c.withoutSample_row _ s,
    Row.get?_withoutSample _ hc.2.1 hc.2.2, get?_row hc.1]

/-- The rows that a file of samples gives to a table of summaries. -/
def summaryRows (c : RunContext) (times : List Binary64) : List Row :=
  (Summary.ofSamples (times.map Binary64.reread)).toList.map c.summaryRow

/-- Samples give one row together, and no samples give none. -/
theorem length_summaryRows (c : RunContext) (times : List Binary64) :
    (c.summaryRows times).length = if times = [] then 0 else 1 := by
  unfold summaryRows
  by_cases hne : times = []
  · rw [if_pos hne, hne, List.map_nil, Summary.ofSamples_nil]
    rfl
  · obtain ⟨summary, hs⟩ := Summary.exists_ofSamples (mt (List.map_eq_nil_iff (f := Binary64.reread)).1 hne)
    rw [if_neg hne, hs]
    rfl

theorem summarise_rows (path : Path) (c : RunContext) (times : List Binary64) :
    summarise path ((Sample.number times).map c.row) = .ok (c.summaryRows times) := by
  unfold summarise summaryRows
  rw [rowSamples_rows, Except.map]
  cases times with
  | nil =>
    rw [List.map_nil, Summary.ofSamples_nil]
    rfl
  | cons x rest =>
    have hrows : ((Sample.number (x :: rest)).map c.row).map Row.withoutSample =
        List.replicate (rest.length + 1) (c.row ⟨0, Binary64.zero⟩).withoutSample := by
      refine List.eq_replicate_iff.2 ⟨by simp [Sample.number], ?_⟩
      intro r hr
      obtain ⟨r', hr', rfl⟩ := List.mem_map.1 hr
      obtain ⟨s, -, rfl⟩ := List.mem_map.1 hr'
      exact c.withoutSample_row s _
    have hne : (x :: rest).map Binary64.reread ≠ [] := List.cons_ne_nil _ _
    obtain ⟨summary, hs⟩ := Summary.exists_ofSamples hne
    rw [hrows, firsts_replicate, hs]
    rfl

theorem summarise_written (path : Path) (c : RunContext) {times : List Binary64}
    (h : ∀ x ∈ times, x.ReadsBack) {summary : Summary}
    (hs : Summary.ofSamples (times.map Binary64.shown) = some summary) :
    summarise path ((Sample.number times).map c.row) = .ok [c.summaryRow summary] := by
  have hread : times.map Binary64.reread = times.map Binary64.shown :=
    List.map_congr_left fun x hx => (h x hx).reread_eq
  rw [summarise_rows, summaryRows, hread, hs]
  rfl

end RunContext

/-! ## Tables -/

namespace Table

theorem rows_foldl_push (rows : List Row) (t : Table) :
    (rows.foldl push t).rows = t.rows ++ rows := by
  induction rows generalizing t with
  | nil => exact (List.append_nil _).symm
  | cons r rest ih =>
    rw [List.foldl_cons, ih]
    exact List.append_cons t.rows r rest |>.symm

theorem columns_foldl_push {columns : List String} {rows : List Row}
    (h : ∀ r ∈ rows, r.keys = columns) (t : Table) (ht : t.columns = columns) :
    (rows.foldl push t).columns = columns := by
  induction rows generalizing t with
  | nil => exact ht
  | cons r rest ih =>
    obtain ⟨hr, hrest⟩ := List.forall_mem_cons.1 h
    refine ih hrest (t.push r) ?_
    unfold push
    simp [ht, hr]

/-- A table of rows under the same columns has these columns. -/
theorem columns_of_rows {columns : List String} {rows : List Row}
    (h : ∀ r ∈ rows, r.keys = columns) (hne : rows ≠ []) :
    (rows.foldl push empty).columns = columns := by
  obtain ⟨r, rest, rfl⟩ := List.exists_cons_of_ne_nil hne
  obtain ⟨hr, hrest⟩ := List.forall_mem_cons.1 h
  refine columns_foldl_push hrest _ ?_
  unfold push empty
  simp [hr]

end Table

/-! ## Collecting -/

theorem on_collectFile (raw : Bool) (t : Table) (e : Files.Entry) (w : World σ) :
    (collectFile raw t e).on w = ((e.contribution raw).map fun rows => rows.foldl Table.push t,
      w.told [⟨.debug, s!"Collecting {e.path.text}", none⟩]) := by
  unfold collectFile
  rw [Run.on_bind_ok (Run.on_report _ _ w)]
  cases e.contribution raw <;> rfl

/-- What is collected are the rows of all files, or the first failure. The files are left alone. -/
theorem on_foldlM_collectFile (raw : Bool) (es : List Files.Entry) (t : Table) (w : World σ) :
    ∃ events, (es.foldlM (collectFile raw) t).on w =
      ((es.mapM (Files.Entry.contribution raw)).map fun blocks =>
        blocks.flatten.foldl Table.push t, w.told events) := by
  induction es generalizing t w with
  | nil => exact ⟨[], by rw [World.told_nil]; rfl⟩
  | cons e es ih =>
    have hfile := on_collectFile raw t e w
    rw [List.foldlM_cons, List.mapM_cons]
    cases hr : e.contribution raw with
    | error f =>
      rw [hr] at hfile
      change _ = (Except.error f, _) at hfile
      rw [Run.on_bind_error hfile]
      exact ⟨_, rfl⟩
    | ok rows =>
      rw [hr] at hfile
      change _ = (Except.ok (rows.foldl Table.push t), _) at hfile
      obtain ⟨events, hrest⟩ := ih (rows.foldl Table.push t)
        (w.told [⟨.debug, s!"Collecting {e.path.text}", none⟩])
      rw [Run.on_bind_ok hfile, hrest, World.told_told]
      refine ⟨_, Prod.ext ?_ rfl⟩
      cases es.mapM (Files.Entry.contribution raw) with
      | error f => rfl
      | ok blocks =>
        change Except.ok _ = Except.ok ((rows :: blocks).flatten.foldl Table.push t)
        rw [List.flatten_cons, List.foldl_append]

theorem on_collect_eq (raw : Bool) (source : Path) (w : World σ) :
    ∃ events, (collect raw source).on w =
      (((w.files.results source).mapM (Files.Entry.contribution raw)).map fun blocks =>
        blocks.flatten.foldl Table.push Table.empty, w.told events) := by
  obtain ⟨events, hfold⟩ := on_foldlM_collectFile raw (w.files.results source) Table.empty w
  unfold collect
  rw [Run.on_bind_ok (Run.on_files w)]
  cases h : (w.files.results source).mapM (Files.Entry.contribution raw) with
  | error f =>
    rw [h] at hfold
    exact ⟨_, Run.on_bind_error hfold _⟩
  | ok blocks =>
    rw [h] at hfold
    change _ = (Except.ok (blocks.flatten.foldl Table.push Table.empty), w.told events) at hfold
    rw [Run.on_bind_ok hfold, Run.on_bind_ok (Run.on_report _ _ (w.told events)), World.told_told]
    exact ⟨_, rfl⟩

/-- Files whose rows are read give the table of all these rows. -/
theorem on_collect {raw : Bool} {source : Path} {w : World σ} {blocks : List (List Row)}
    (h : List.Forall₂ (fun e rows => e.contribution raw = .ok rows) (w.files.results source)
      blocks) :
    ∃ w', (collect raw source).on w =
      (.ok (blocks.flatten.foldl Table.push Table.empty), w') := by
  obtain ⟨events, hcollect⟩ := on_collect_eq raw source w
  rw [mapM_eq_ok_iff.2 h] at hcollect
  exact ⟨_, hcollect⟩

theorem on_collect_of_single (raw : Bool) {source : Path} {w : World σ} {e : Files.Entry}
    {rows : List Row} (he : w.files.results source = [e]) (hr : e.contribution raw = .ok rows) :
    ∃ w', (collect raw source).on w = (.ok (rows.foldl Table.push Table.empty), w') := by
  have h : List.Forall₂ (fun e rows => e.contribution raw = .ok rows) (w.files.results source)
      [rows] := by
    rw [he]
    exact .cons hr .nil
  obtain ⟨w', hc⟩ := on_collect h
  rw [List.flatten_singleton] at hc
  exact ⟨w', hc⟩

theorem Files.Entry.rows_of_read {e : Files.Entry} {bytes : List UInt8} {header : List String}
    {records : List (List String)} (hn : e.node = .file bytes)
    (h : Csv.read bytes = .ok (header, records)) :
    e.rows = .ok (records.map fun r => OrderedMap.ofList (header.zip r)) := by
  unfold rows
  rw [hn]
  change (readRows bytes).mapError Failure.table = _
  unfold readRows
  rw [h]
  rfl

theorem contribution_written {raw : Bool} {e : Files.Entry} {c : RunContext} {times : List Binary64}
    (hn : e.node = .file (c.table times)) :
    e.contribution raw = if raw then .ok ((Sample.number times).map c.row)
      else summarise e.path ((Sample.number times).map c.row) := by
  have hrows : e.rows = .ok ((Sample.number times).map c.row) := by
    rw [Files.Entry.rows_of_read hn (c.read_table times), RunContext.records, List.map_map]
    rfl
  unfold Files.Entry.contribution
  rw [hrows]
  rfl

namespace Plan

theorem look_of_writeResults {p : Plan} {times : List Binary64} {w₀ w : World σ}
    (h : (p.writeResults times).on w₀ = (.ok (), w)) :
    w.files.look p.resultsPath = .ok (.file (p.context.table times)) := by
  rw [p.on_writeResults times w₀] at h
  cases hw : w₀.files.writable p.resultsPath with
  | error fault =>
    rw [hw] at h
    cases h
  | ok place =>
    rw [hw] at h
    cases h
    exact Files.look_put hw _

/-- Let a plan write its results, and let these be the only results below a directory. Then the raw
table of that directory has a row for each sample, in the order of the samples, whose cells under the
columns of the header are those of the sample. The other table is empty if there are no samples and
has one row otherwise: behind the columns that the samples share come those of the summary that are
not among them, the cells that do not belong to the summary are the written ones, and those of the
summary are the texts of least, greatest, middle and mean of the samples that were read back. -/
theorem collect_reads_results (p : Plan) (times : List Binary64) {w₀ w : World σ} {source : Path}
    {e : Files.Entry} (hw : (p.writeResults times).on w₀ = (.ok (), w))
    (he : w.files.results source = [e]) (hn : w.files.look p.resultsPath = .ok e.node) :
    let c := p.context
    let shared := c.header.filter fun column => column ≠ "iteration" ∧ column ≠ "time_ms"
    (∃ t w', (collect true source).on w = (.ok t, w') ∧
      t.columns = (if times = [] then [] else c.header) ∧ t.rows.length = times.length ∧
      ∀ k (hk : k < times.length), (t.rows[k]?).map (·.entries) =
        some (c.header.map fun column => (column, c.cell ⟨k, times[k]⟩ column))) ∧
    ((∀ x ∈ times, x.ReadsBack) →
      ∃ t w', (collect false source).on w = (.ok t, w') ∧ (times = [] → t.rows = []) ∧
        (times ≠ [] → ∃ row summary, t.rows = [row] ∧ t.columns = row.keys ∧
          Summary.ofSamples (times.map Binary64.shown) = some summary ∧
          row.keys = shared ++ summaryColumns.filter (· ∉ shared) ∧
          (∀ column ∈ shared, column ∉ summaryColumns →
            ∀ s, row.get? column = some (c.cell s column)) ∧
          row.get? "min_time_ms" = some (floatText summary.min) ∧
          row.get? "max_time_ms" = some (floatText summary.max) ∧
          row.get? "median_time_ms" = some (floatText summary.median) ∧
          row.get? "mean_time_ms" = some (floatText summary.mean))) := by
  intro c shared
  have hfile : e.node = .file (c.table times) := by
    rw [look_of_writeResults hw] at hn
    exact (Except.ok.inj hn).symm
  constructor
  · obtain ⟨w', hc⟩ := on_collect_of_single true he (contribution_written hfile)
    have hrows := Table.rows_foldl_push ((Sample.number times).map c.row) Table.empty
    refine ⟨_, w', hc, ?_, ?_, ?_⟩
    · split
      · rename_i hnil
        rw [hnil]
        rfl
      · rename_i hne
        refine Table.columns_of_rows (fun r hr => ?_) (by simpa [Sample.number] using hne)
        obtain ⟨s, -, rfl⟩ := List.mem_map.1 hr
        exact c.keys_row s
    · rw [hrows]
      simp [Table.empty, Sample.number]
    · intro k hk
      rw [hrows]
      change (((Sample.number times).map c.row)[k]?).map _ = _
      rw [List.getElem?_map, RunContext.getElem?_number (List.getElem?_eq_getElem hk)]
      exact congrArg some (c.entries_row _)
  · intro hx
    by_cases hne : times = []
    · have hnone : e.contribution false = .ok [] :=
        (contribution_written hfile).trans (by rw [hne]; rfl)
      obtain ⟨w', hc⟩ := on_collect_of_single false he hnone
      exact ⟨_, w', hc, fun _ => rfl, fun h => (h hne).elim⟩
    · have hshown : times.map Binary64.shown ≠ [] := mt List.map_eq_nil_iff.1 hne
      obtain ⟨summary, hs⟩ := Summary.exists_ofSamples hshown
      obtain ⟨w', hc⟩ := on_collect_of_single false he
        ((contribution_written hfile).trans (c.summarise_written e.path hx hs))
      refine ⟨_, w', hc, fun h => (hne h).elim, fun _ => ⟨c.summaryRow summary, summary, rfl,
        Table.columns_of_rows (by simp) (by simp), hs, c.keys_summaryRow summary,
        fun column hcol hsum s => c.get?_summaryRow_of_shared summary hcol hsum s, ?_⟩⟩
      exact ⟨Row.get?_withSummary _ _ (by simp [summaryCells]),
        Row.get?_withSummary _ _ (by simp [summaryCells]),
        Row.get?_withSummary _ _ (by simp [summaryCells]),
        Row.get?_withSummary _ _ (by simp [summaryCells])⟩

/-- The table of a run with shadowed columns, quoted cells and a sample that is no number. -/
theorem collect_reads_results_of_two_samples :
    let b : Benchmark := ⟨"b,\n", .ofList [("time_ms", .bool true), ("max_time_ms", .text "\"")],
      .empty⟩
    let p : Plan := ⟨b, ⟨"t", .empty, none, none, none, none, none, none⟩, ⟨2, 1⟩, .abort, ⟨"runs/a"⟩⟩
    let times : List Binary64 := [⟨0x3FF8000000000000⟩, Binary64.nan true]
    let w₀ : World Unit :=
      ⟨⟨.ofList [(["runs"], .directory), (["runs", "a"], .directory)], []⟩, 0, [], ()⟩
    let w := ((p.writeResults times).on w₀).2
    (∃ t w', (collect true ⟨"runs"⟩).on w = (.ok t, w') ∧ t.rows.length = 2) ∧
      ∃ t w' row, (collect false ⟨"runs"⟩).on w = (.ok t, w') ∧ t.rows = [row] ∧
        row.keys = ["benchmark", "target", "total_iterations", "threads", "max_time_ms",
          "min_time_ms", "median_time_ms", "mean_time_ms"] ∧
        row.get? "benchmark" = some "b,\n" := by
  intro b p times w₀ w
  have hwr : w₀.files.writable p.resultsPath = .ok ["runs", "a", "results.csv"] := by decide +kernel
  have hw : (p.writeResults times).on w₀ = (.ok (), w) :=
    Prod.ext (by rw [p.on_writeResults, hwr]) rfl
  let e : Files.Entry := ⟨⟨"runs/a/results.csv"⟩, .file (p.context.table times)⟩
  have hfiles : w.files = w₀.files.put ["runs", "a", "results.csv"] e.node := by
    change (((p.writeResults times).on w₀).2).files = _
    rw [p.on_writeResults, hwr]
    rfl
  have he : w.files.results ⟨"runs"⟩ = [e] := by
    have hfind : w.files.find ⟨"runs"⟩ = .ok (["runs"], .directory) := by
      rw [hfiles]
      decide +kernel
    have hbelow : w.files.below ["runs"] =
        [(["a"], .directory), (["a", "results.csv"], e.node)] := by
      rw [hfiles]
      exact List.mergeSort_of_pairwise (by decide)
    unfold Files.results Files.walk
    rw [hfind]
    dsimp only
    rw [hbelow]
    decide +kernel
  have hx : ∀ x ∈ times, x.ReadsBack := by
    refine List.forall_mem_cons.2 ⟨?_, List.forall_mem_singleton.2 ?_⟩
    · exact (by decide +kernel :
        Decimal.readFloat (floatText ⟨0x3FF8000000000000⟩).toList = .ok ⟨0x3FF8000000000000⟩)
    · exact (by decide +kernel :
        Decimal.readFloat (floatText (Binary64.nan true)).toList = .ok (Binary64.nan false))
  obtain ⟨⟨t, w', hc, -, hl, -⟩, hsum⟩ :=
    collect_reads_results p times hw he (look_of_writeResults hw)
  obtain ⟨t', w'', hc', -, hrow⟩ := hsum hx
  obtain ⟨row, summary, hrows, -, -, hkeys, hcells, -⟩ := hrow (by decide)
  refine ⟨⟨t, w', hc, hl⟩, t', w'', row, hc', hrows, ?_, ?_⟩
  · rw [hkeys]
    decide
  · exact hcells "benchmark" (by decide) (by decide) ⟨0, Binary64.zero⟩

end Plan

end BenchSweep
