import BenchSweep.Csv.Writer
import BenchSweep.Resolution

/-! The table of the timing samples of one run: a record for each sample, with the identity and the
settings of the run, the number of the sample, its time and the parameters. -/
set_option autoImplicit false

namespace BenchSweep

/-- What all records of one run share. -/
structure RunContext where
  benchmark : String
  target : String
  settings : RunSettings
  benchmarkParams : Params
  targetParams : Params

namespace RunContext

/-- The columns that every table of results has. -/
def fixedColumns : List String :=
  ["benchmark", "target", "total_iterations", "threads", "iteration", "time_ms"]

/-- The parameters of both sides; a value of the target goes before one of the benchmark. -/
def params (c : RunContext) : Params := c.benchmarkParams.merge c.targetParams

/-- The columns of the table. A parameter called like a fixed column adds none. -/
def header (c : RunContext) : List String :=
  fixedColumns ++ c.params.keys.filter (· ∉ fixedColumns)

/-- The text of a fixed column, except for those of the sample itself. -/
def fixedCell (c : RunContext) (column : String) : String :=
  if column = "benchmark" then c.benchmark
  else if column = "target" then c.target
  else if column = "total_iterations" then c.settings.text .iterations
  else if column = "threads" then c.settings.text .threads
  else ""

end RunContext

/-- One sample, counted from zero. -/
structure Sample where
  index : Nat
  time : Binary64

/-- The cell of a sample in a column. Its number and its time are its own; elsewhere a parameter goes
before what the column holds otherwise. -/
def RunContext.cell (c : RunContext) (s : Sample) (column : String) : String :=
  if column = "iteration" then String.ofList (Decimal.digits s.index)
  else if column = "time_ms" then floatText s.time
  else
    match c.params.get? column with
    | some v => v.toText
    | none => c.fixedCell column

/-- The cells of a sample under the header. -/
def RunContext.record (c : RunContext) (s : Sample) : List String := c.header.map (c.cell s)

/-- The samples with their numbers. -/
def Sample.number (times : List Binary64) : List Sample :=
  times.zipIdx.map fun (time, index) => ⟨index, time⟩

/-- The records of all samples in order. -/
def RunContext.records (c : RunContext) (times : List Binary64) : List (List String) :=
  (Sample.number times).map c.record

/-- The table in writing; without samples it is the header alone. -/
def RunContext.write (c : RunContext) (times : List Binary64) : Except TableFault (List UInt8) :=
  Csv.write (c.header :: c.records times)

end BenchSweep
