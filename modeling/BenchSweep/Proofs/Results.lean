import BenchSweep.Proofs.Csv
import BenchSweep.Proofs.OrderedMap
import BenchSweep.Results

/-! The table of results is always written, and what is written is read back: under the header one
record for each sample. Parameters may be called like each other or like any other column; the header
names each column once all the same, and records differ in nothing but their sample. -/
set_option autoImplicit false

namespace BenchSweep.RunContext

/-! ## The header -/

theorem mem_header_iff {c : RunContext} {column : String} :
    column ∈ c.header ↔
      column ∈ fixedColumns ∨ column ∈ c.benchmarkParams.keys ∨ column ∈ c.targetParams.keys := by
  unfold header params
  rw [OrderedMap.keys_merge]
  simp only [List.mem_append, List.mem_filter, decide_eq_true_iff]
  tauto

theorem nodup_header (c : RunContext) : c.header.Nodup := by
  unfold header
  refine List.nodup_append'.2 ⟨by decide, c.params.nodup_keys.filter _, ?_⟩
  intro column hf hp
  simpa [hf] using (List.mem_filter.1 hp).2

/-! ## Cells -/

theorem cell_eq_of_shared (c : RunContext) {column : String} (hi : column ≠ "iteration")
    (ht : column ≠ "time_ms") (s s' : Sample) : c.cell s column = c.cell s' column := by
  unfold cell
  simp only [hi, ht, if_false]

/-- A value of the target goes before one of the benchmark, and both before what is fixed. -/
theorem cell_of_not_sample (c : RunContext) {column : String} (hi : column ≠ "iteration")
    (ht : column ≠ "time_ms") (s : Sample) :
    c.cell s column =
      ((c.targetParams.get? column <|> c.benchmarkParams.get? column).map Value.toText).getD
        (c.fixedCell column) := by
  unfold cell params
  rw [if_neg hi, if_neg ht, OrderedMap.get?_merge]
  cases (c.targetParams.get? column <|> c.benchmarkParams.get? column) <;> rfl

theorem getElem?_record {c : RunContext} {i : Nat} {column : String}
    (h : c.header[i]? = some column) (s : Sample) :
    (c.record s)[i]? = some (c.cell s column) := by
  unfold record
  rw [List.getElem?_map, h]
  rfl

/-! ## Records -/

theorem getElem?_number {times : List Binary64} {k : Nat} {time : Binary64}
    (h : times[k]? = some time) : (Sample.number times)[k]? = some ⟨k, time⟩ := by
  unfold Sample.number
  rw [List.getElem?_map, List.getElem?_zipIdx, h]
  simp

theorem getElem?_records {times : List Binary64} {k : Nat} {time : Binary64}
    (c : RunContext) (h : times[k]? = some time) :
    (c.records times)[k]? = some (c.record ⟨k, time⟩) := by
  unfold records
  rw [List.getElem?_map, getElem?_number h]
  rfl

theorem length_records (c : RunContext) (times : List Binary64) :
    (c.records times).length = times.length := by
  simp [records, Sample.number]

theorem length_of_mem_records {c : RunContext} {times : List Binary64} {r : List String}
    (h : r ∈ c.records times) : r.length = c.header.length := by
  obtain ⟨s, -, rfl⟩ := List.mem_map.1 h
  exact List.length_map _

theorem header_ne_nil (c : RunContext) : c.header ≠ [] := by
  simp [header, fixedColumns]

/-- The bytes of the table. -/
def table (c : RunContext) (times : List Binary64) : List UInt8 :=
  Csv.lines (c.header :: c.records times)

theorem write_eq_table (c : RunContext) (times : List Binary64) :
    c.write times = .ok (c.table times) :=
  Csv.write_eq_lines fun _ h => length_of_mem_records h

theorem isPrefixOf_name_eq_false (header : List String) (rows : List (List String)) :
    Csv.byteOrderMark.isPrefixOf (Csv.lines (("benchmark" :: header) :: rows)) = false := by
  have hname : Csv.writeField (Text.Utf8.bytes "benchmark") =
      0x62 :: Text.Utf8.bytes "enchmark" := by decide
  exact Csv.isPrefixOf_lines_eq_false hname (by decide) header rows

/-- The table is read back as its header and one record for each sample. -/
theorem read_table (c : RunContext) (times : List Binary64) :
    Csv.read (c.table times) = .ok (c.header, c.records times) :=
  Csv.read_lines c.header_ne_nil (fun _ h => length_of_mem_records h) (isPrefixOf_name_eq_false _ _)

/-- A table of results is rectangular. Its header starts with the fixed columns, names no column twice
and holds every parameter of both sides; it is always written, and read back as it is. There is a record
for each sample, whose number and time are in their columns however parameters are called; in all
others records agree: a parameter of the target goes before one of the benchmark, and this one before
what the column holds otherwise. -/
theorem table_is_rectangular (c : RunContext) (times : List Binary64) :
    ["benchmark", "target", "total_iterations", "threads", "iteration", "time_ms"] <+: c.header ∧
    c.header.Nodup ∧
    (∀ name, name ∈ c.benchmarkParams.keys ∨ name ∈ c.targetParams.keys → name ∈ c.header) ∧
    (∀ record ∈ c.records times, record.length = c.header.length) ∧
    (∃ bytes, c.write times = .ok bytes ∧ Csv.read bytes = .ok (c.header, c.records times)) ∧
    (c.records times).length = times.length ∧
    (∀ (k : Nat) (time : Binary64), times[k]? = some time →
      ∃ record, (c.records times)[k]? = some record ∧
        ∀ (i : Nat) (column : String), c.header[i]? = some column →
          (column = "iteration" → record[i]? = some (toString k)) ∧
          (column = "time_ms" → record[i]? = some (floatText time)) ∧
          (column ≠ "iteration" → column ≠ "time_ms" → record[i]? =
            some (((c.targetParams.get? column <|> c.benchmarkParams.get? column).map
              Value.toText).getD (c.fixedCell column)))) ∧
    ∀ record ∈ c.records times, ∀ other ∈ c.records times, ∀ (i : Nat) (column : String),
      c.header[i]? = some column → column ≠ "iteration" → column ≠ "time_ms" →
        record[i]? = other[i]? := by
  refine ⟨List.prefix_append _ _, c.nodup_header, fun name h => mem_header_iff.2 (.inr h),
    fun _ h => length_of_mem_records h, ⟨_, c.write_eq_table times, c.read_table times⟩,
    c.length_records times, ?_, ?_⟩
  · intro k time htime
    refine ⟨_, c.getElem?_records htime, fun i column hcolumn => ?_⟩
    rw [getElem?_record hcolumn]
    refine ⟨?_, ?_, ?_⟩
    · rintro rfl
      rfl
    · rintro rfl
      rfl
    · intro hi ht
      rw [c.cell_of_not_sample hi ht]
  · intro record hrecord other hother i column hcolumn hi ht
    obtain ⟨s, -, rfl⟩ := List.mem_map.1 hrecord
    obtain ⟨s', -, rfl⟩ := List.mem_map.1 hother
    rw [getElem?_record hcolumn, getElem?_record hcolumn, c.cell_eq_of_shared hi ht s s']

/-- Parameters called like a sample's column, like a fixed column and like each other. -/
theorem table_is_rectangular_of_shadowed_columns :
    let c : RunContext := ⟨"b", "t", ⟨2, 4⟩,
      .ofList [("time_ms", .integer 7), ("mode", .text "a,\n"), ("threads", .integer 8)],
      .ofList [("iteration", .integer 9), ("mode", .text "b")]⟩
    let times : List Binary64 := [Binary64.ofInt 1, Binary64.ofInt 2]
    c.header = ["benchmark", "target", "total_iterations", "threads", "iteration", "time_ms", "mode"] ∧
      "mode" ∈ c.header ∧
      ∃ record other, (c.records times)[0]? = some record ∧ (c.records times)[1]? = some other ∧
        other[4]? = some "1" ∧ other[6]? = some "b" ∧ other[3]? = some "8" ∧
        record[3]? = other[3]? := by
  intro c times
  have hheader : c.header = ["benchmark", "target", "total_iterations", "threads", "iteration",
      "time_ms", "mode"] := by decide
  obtain ⟨-, -, hnames, -, -, -, hrecord, hagree⟩ := table_is_rectangular c times
  obtain ⟨record, hget, -⟩ := hrecord 0 _ rfl
  obtain ⟨other, hget', hcells⟩ := hrecord 1 _ rfl
  refine ⟨hheader, hnames "mode" (by decide), record, other, hget, hget', ?_, ?_, ?_, ?_⟩
  · exact (hcells 4 "iteration" (by rw [hheader]; rfl)).1 rfl
  · exact (hcells 6 "mode" (by rw [hheader]; rfl)).2.2 (by decide) (by decide)
  · exact (hcells 3 "threads" (by rw [hheader]; rfl)).2.2 (by decide) (by decide)
  · exact hagree record (List.mem_of_getElem? hget) other (List.mem_of_getElem? hget') 3 "threads"
      (by rw [hheader]; rfl) (by decide) (by decide)

end BenchSweep.RunContext
