import BenchSweep.Csv.Reader
import BenchSweep.Csv.Writer
import BenchSweep.Decimal.Reading
import BenchSweep.Summary
import BenchSweep.Value
import BenchSweep.World

/-! One table from the results of many runs. All files called `results.csv` below a directory are read
in the order of their paths. The raw table has a row for every sample; otherwise the samples of a file
are summed up, and rows that differ in nothing but the sample become one. -/
set_option autoImplicit false

namespace BenchSweep

/-- The cells of a row by column. -/
abbrev Row := OrderedMap String String

/-! ## Rows of one file -/

/-- The rows of a table in writing. Of two columns with one name the last cell counts. -/
def readRows (bytes : List UInt8) : Except TableFault (List Row) :=
  (Csv.read bytes).map fun (header, records) =>
    records.map fun r => OrderedMap.ofList (header.zip r)

/-- The samples of rows that show any, in order. -/
def rowSamples (path : Path) (rows : List Row) : Except Failure (List Binary64) :=
  (rows.filterMap (·.get? "time_ms")).mapM fun cell =>
    match Decimal.readFloat (Text.trim cell.toList) with
    | .ok x => .ok x
    | .error e => .error (.unreadableSample s!"results {path.text}" cell e.message)

/-- The row without what only its sample has. -/
def Row.withoutSample (r : Row) : Row := (r.erase "time_ms").erase "iteration"

/-- Each element once, at its first place. -/
def firsts {α : Type} [DecidableEq α] (xs : List α) : List α :=
  xs.foldl (fun seen x => if x ∈ seen then seen else seen ++ [x]) []

/-- The columns of a summary with the cells that they take; without samples the cells are empty. -/
def summaryCells (summary : Option Summary) : List (String × String) :=
  let cell (f : Summary → Binary64) := (summary.map fun s => floatText (f s)).getD ""
  [("min_time_ms", cell Summary.min), ("max_time_ms", cell Summary.max),
    ("median_time_ms", cell Summary.median), ("mean_time_ms", cell Summary.mean)]

/-- The row with the cells of a summary put in. -/
def Row.withSummary (r : Row) (summary : Option Summary) : Row :=
  (summaryCells summary).foldl (fun r (column, cell) => r.insert column cell) r

/-- The rows of a file without their samples, each once and with the summary of all samples. -/
def summarise (path : Path) (rows : List Row) : Except Failure (List Row) :=
  (rowSamples path rows).map fun samples =>
    (firsts (rows.map Row.withoutSample)).map (·.withSummary (Summary.ofSamples samples))

/-! ## Tables -/

structure Table where
  /-- The columns of all rows in order of first appearance. -/
  columns : List String
  rows : List Row
deriving DecidableEq

namespace Table

def empty : Table := ⟨[], []⟩

/-- The table with a row more, and with those of its columns that are new. -/
def push (t : Table) (r : Row) : Table :=
  ⟨t.columns ++ r.keys.filter (· ∉ t.columns), t.rows ++ [r]⟩

/-- The cells of a row under all columns; a missing one is empty. -/
def record (t : Table) (r : Row) : List String := t.columns.map fun c => (r.get? c).getD ""

/-- The table in writing. -/
def write (t : Table) : Except TableFault (List UInt8) := Csv.write (t.columns :: t.rows.map t.record)

end Table

/-! ## Collecting -/

/-- The name of the files that are collected. -/
def resultsName : String := "results.csv"

/-- The files with results below a directory, in the order of their paths. -/
def Files.results (fs : Files) (source : Path) : List Files.Entry :=
  (fs.walk source).filter fun e => e.node ≠ .directory && e.name = resultsName

/-- The rows of a file of results. -/
def Files.Entry.rows (e : Files.Entry) : Except Failure (List Row) :=
  match Files.Node.bytes e.node with
  | .error fault => .error (.table (.host fault))
  | .ok bytes => (readRows bytes).mapError .table

/-- The rows that a file gives to the table. -/
def Files.Entry.contribution (raw : Bool) (e : Files.Entry) : Except Failure (List Row) := do
  let rows ← e.rows
  if raw then return rows else summarise e.path rows

/-- Adds the rows of a file to the table. -/
def collectFile {σ : Type} (raw : Bool) (t : Table) (e : Files.Entry) : Run σ Table := do
  Run.report .debug s!"Collecting {e.path.text}"
  return (← Run.of (e.contribution raw)).foldl Table.push t

/-- The table of all results below `source`. -/
def collect {σ : Type} (raw : Bool) (source : Path) : Run σ Table := do
  let t ← ((← Run.files).results source).foldlM (collectFile raw) Table.empty
  Run.report .info s!"Collected {t.rows.length} rows from {source.text}"
  return t

/-- Writes a table to a file. The file is made before the records are written. -/
def Table.save {σ : Type} (t : Table) (path : Path) : Run σ Unit := do
  Run.write path []
  let bytes ← Run.of (t.write.mapError .table)
  Run.write path bytes

end BenchSweep
