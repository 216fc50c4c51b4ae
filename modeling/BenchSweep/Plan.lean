import BenchSweep.Calendar
import BenchSweep.Compatibility
import BenchSweep.Lifecycle
import BenchSweep.Results
import BenchSweep.Sampling
import BenchSweep.Toml.Writer

/-! One run of a benchmark on a target: a gate that lets only compatible configurations pass, a
record of the configuration, the stages of the target and the table of results. -/
set_option autoImplicit false

namespace BenchSweep

/-- Everything that one run needs. -/
structure Plan where
  /-- With the values that its parameters take in this run. -/
  benchmark : Benchmark
  target : Target
  settings : RunSettings
  policy : Policy
  /-- Where the commands work and the results are kept. -/
  directory : Path

/-- How a run ended that did not fail. -/
inductive Outcome where
  | completed (samples : Nat) (results : Path)
  /-- The configuration did not pass the gate, and the policy is to continue. -/
  | skipped (report : Report)
deriving DecidableEq

namespace Plan

variable {σ : Type}

/-! ## The record of the configuration -/

/-- A parameter in the record. -/
def pair : String × Value → Toml.Pair
  | (name, .bool b) => (name, .bool b)
  | (name, .integer n) => (name, .integer n.toInt)
  | (name, .float x) => (name, .float x)
  | (name, .text s) => (name, .text s)

/-- The configuration of a run that starts at this time. -/
def manifest (p : Plan) (startedAt : Nat) : Toml.Sheet where
  pairs := [("benchmark", .text p.benchmark.name), ("target", .text p.target.name),
    ("started_at", .text (Instant.text startedAt)),
    ("iterations", .integer p.settings.iterations.toNat),
    ("threads", .integer p.settings.threads.toNat), ("continue_on_error", .bool p.policy.flag)]
  tables := [("params", p.benchmark.params.entries.map pair),
    ("target_params", p.target.params.entries.map pair)]

def manifestPath (p : Plan) : Path := p.directory.child "run.toml"

def resultsPath (p : Plan) : Path := p.directory.child "results.csv"

def writeManifest (p : Plan) : Run σ Unit := do
  match (p.manifest (← Run.now)).write with
  | none => Run.fail .manifest
  | some text => Run.write p.manifestPath (Text.Utf8.bytes text)

/-! ## The gate -/

/-- Tells one diagnostic. -/
def tell (d : Diagnostic) : Run σ Unit :=
  Run.report (if d.severity = .error then .error else .warning) d.message

/-- The report on the configuration. -/
def report (p : Plan) : Report := p.benchmark.check p.target.name

/-- The format of the samples: that of the binding, or else that of the target. -/
def sampler (p : Plan) (b : Binding) : Except Failure Sampler :=
  match b.format <|> p.target.format with
  | some f => f.sampler
  | none => .error (.noFormat p.target.name)

/-- The binding to the target. -/
def binding (p : Plan) : Except Failure Binding :=
  match p.benchmark.binding? p.target.name with
  | some b => .ok b
  | none => .error (.unsupportedTarget p.benchmark.name p.target.name)

/-! ## The run -/

def context (p : Plan) : RunContext :=
  ⟨p.benchmark.name, p.target.name, p.settings, p.benchmark.params, p.target.params⟩

/-- Writes the table of results. The file is made before its records are written. -/
def writeResults (p : Plan) (times : List Binary64) : Run σ Unit := do
  Run.write p.resultsPath []
  let bytes ← Run.of ((p.context.write times).mapError .table)
  Run.write p.resultsPath bytes
  Run.report .info s!"Wrote {times.length} result rows to {p.resultsPath.text}"

/-- What happens behind the gate. -/
def perform (p : Plan) (execute : Executor σ) : Run σ Outcome := do
  let b ← Run.of p.binding
  let sampler ← Run.of (p.sampler b)
  Run.makeDirectories p.directory
  p.writeManifest
  let times ← p.target.runStages execute ⟨p.benchmark.params, p.settings⟩ b sampler.samples
  p.writeResults times
  return .completed times.length p.resultsPath

/-- Runs the plan: a configuration that is not compatible is skipped or fails before anything is
executed or written. -/
def run (p : Plan) (execute : Executor σ) : Run σ Outcome := do
  Run.report .info s!"Running {p.benchmark.name} using the {p.target.name} target."
  p.report.diagnostics.forM tell
  if p.report.passed then p.perform execute
  else
    match p.policy with
    | .goOn =>
      Run.report .error
        s!"Skipping {p.benchmark.name} on {p.target.name}: incompatible configuration"
      return .skipped p.report
    | .abort =>
      Run.fail (.incompatible p.benchmark.name p.target.name p.report.errorCount)

end Plan

end BenchSweep
