import BenchSweep.Campaign
import BenchSweep.Catalog
import BenchSweep.Collection
import BenchSweep.CommandLine.Console
import BenchSweep.CommandLine.Json
import BenchSweep.CommandLine.Request
import BenchSweep.Configuration
import BenchSweep.Shell.Launch

/-! How requests are met. Checking, running and listing first read the configuration; what it says
gives way to what the request says. -/
set_option autoImplicit false

namespace BenchSweep.CommandLine

open Console

variable {σ : Type}

/-! ## Reports as trees -/

def diagnosticJson : Diagnostic → Json
  | .unsupportedTarget benchmark target =>
    .record [("kind", .text "unsupported_target"), ("benchmark", .text benchmark),
      ("target", .text target)]
  | .undeclaredParameter parameter slot =>
    .record [("kind", .text "undeclared_parameter_reference"), ("parameter", .text parameter),
      ("group", .text slot.name)]
  | .unusedParameter parameter =>
    .record [("kind", .text "unused_parameter"), ("parameter", .text parameter)]

def reportJson (r : Report) : Json :=
  .record [("diagnostics", .list (r.diagnostics.map diagnosticJson))]

/-! ## Configurations -/

/-- The configuration in a file. -/
def readConfiguration (p : Path) : Console σ Configuration := do
  let text ← allowed ((← get).files.readText p)
  match Configuration.ofToml? text with
  | some c => return c
  | none => refuse .configuration

/-- The configuration that a request names, or else the usual one, if there is one. -/
def chosenConfiguration (named : Option Path) : Console σ Configuration := do
  match named with
  | some p => readConfiguration p
  | none =>
    if (← get).files.has usualConfiguration then readConfiguration usualConfiguration
    else return Configuration.standard

/-- The configuration with what the request says put in. -/
def RunRequest.apply (r : RunRequest) (c : Configuration) : Configuration where
  run := {
    iterations := r.iterations.getD c.run.iterations
    threads := r.threads <|> c.run.threads
    continueOnError := c.run.continueOnError || r.continueOnError }
  places := { c.places with output := r.output.getD c.places.output }

/-! ## Runs -/

/-- The rooted form of a path that is not empty. -/
def absolute (fs : Files) (p : Path) : Except HostFault Path :=
  if p.text = "" then .error .emptyPath else .ok (p.absolute fs.here)

/-- Executes the commands of a plan in its directory and passes their output on as messages. -/
def planExecutor (p : Plan) : Executor σ :=
  processExecutor p.policy (Shell.launch (some p.directory)) logSink

/-- The line that tells how a run ended. -/
def outcomeLine (p : Plan) : Outcome → String
  | .completed samples results => s!"{samples} samples written to {results.text}"
  | .skipped report =>
    s!"Skipped {p.benchmark.name} on {p.target.name}: {report.errorCount} error(s)"

def announce : Announcement (Screen σ) := fun p outcome => showLine (outcomeLine p outcome)

/-- What a request to run asks for, under a configuration that has its say already. -/
def campaign (processors : UInt64) (r : RunRequest) (c : Configuration) : Console σ Campaign := do
  let benchmark ← running (benchmarks.load c.places.benchmarks r.benchmark)
  let target ← running (targets.load c.places.targets r.target)
  let _ ← running (Run.of (sweep benchmark.params r.overrides))
  let output ← allowed (absolute (← get).files c.places.output)
  return ⟨benchmark, target, ⟨c.run.iterations, c.run.resolvedThreads processors⟩, c.run.policy,
    r.overrides, output⟩

def runRequested (processors : UInt64) (execute : Plan → Executor (Screen σ)) (r : RunRequest) :
    Console σ Bool := do
  let c ← chosenConfiguration r.configuration
  let campaign ← campaign processors r (r.apply c)
  running (campaign.run execute announce)
  return true

/-! ## Checks -/

/-- The line that tells a diagnostic. -/
def diagnosticLine (d : Diagnostic) : String :=
  (if d.severity = .error then "ERROR " else "WARN ") ++ d.message

/-- The report on running a benchmark on the target of this name. -/
def checkReport (c : Configuration) (benchmark target : String) : Console σ (Benchmark × Report) := do
  let b ← running (benchmarks.load c.places.benchmarks benchmark)
  return (b, b.check target)

/-- Whether the check is passed. -/
def checkRequested (benchmark target : String) (configuration : Option Path) (json : Bool) :
    Console σ Bool := do
  let c ← chosenConfiguration configuration
  let (b, report) ← checkReport c benchmark target
  if json then say ((reportJson report).write 0)
  else
    report.diagnostics.forM fun d => say (diagnosticLine d)
    if report.passed then say s!"{target} is compatible with {b.name}"
  return report.passed

/-! ## Lists -/

/-- A text with blanks behind it up to a width. -/
def padded (width : Nat) (s : String) : String :=
  s ++ String.ofList (List.replicate (width - s.length) ' ')

def tableLine (name targets parameters : String) : String :=
  s!"{padded 30 name} {padded 40 targets} {parameters}"

def benchmarkLine (b : Benchmark) : String :=
  tableLine b.name (", ".intercalate b.targets.keys)
    (" ".intercalate (b.params.entries.map fun (name, value) => name ++ "=" ++ value.toText))

def listRequested (configuration : Option Path) : Console σ Bool := do
  let c ← chosenConfiguration configuration
  let bs ← running (benchmarks.list c.places.benchmarks)
  say s!"Available benchmarks ({bs.length}):"
  say ""
  say (tableLine "Name" "Targets" "Parameters")
  say (String.ofList (List.replicate 90 '-'))
  bs.forM fun b => say (benchmarkLine b)
  return true

/-! ## Collections -/

def collectRequested (source output : Path) (raw : Bool) : Console σ Bool := do
  if !(← get).files.isDirectory source then refuse (.notADirectory source)
  let table ← running (collect raw source)
  running (table.save output)
  say s!"Collected {table.rows.length} rows into {output.text}"
  return true

/-! ## Beginnings -/

def initRequested (output : Path) : Console σ Bool := do
  match Configuration.standard.toToml? with
  | none => refuse .configuration
  | some text =>
    let fs ← allowed ((← get).files.write output (Text.Utf8.bytes text))
    modify fun w => { w with files := fs }
    say s!"Configuration saved to {output.text}"
    return true

/-! ## All requests -/

/-- Meets a request. The answer tells whether the program succeeds. -/
def Request.perform (processors : UInt64) (execute : Plan → Executor (Screen σ)) :
    Request → Console σ Bool
  | .run r => runRequested processors execute r
  | .check benchmark target configuration json => checkRequested benchmark target configuration json
  | .list configuration => listRequested configuration
  | .collect source output raw => collectRequested source output raw
  | .init output => initRequested output

/-- What a call of the program leaves behind: its code, what it showed, its last complaint and the
files. -/
structure Answer where
  code : UInt8
  screen : String
  complaint : Option String
  refusal : Option Refusal
  files : Files
  clock : Nat

/-- What is shown to words that make no request, but for help. -/
def Refusal.screen : Refusal → String
  | .version => "bench-runner 0.1.0\n"
  | _ => ""

def Refusal.code : Refusal → UInt8
  | .misuse => 2
  | _ => 0

/-- A call with these words. One that asks for nothing that can be done changes nothing. -/
def call (processors : UInt64) (words : List String) (fs : Files) (clock : Nat) : Answer :=
  match Request.ofWords words with
  | .error r => ⟨r.code, r.screen, none, some r, fs, clock⟩
  | .ok request =>
    let (result, w) := (request.perform processors planExecutor).run ⟨fs, clock, [], ⟨[], ()⟩⟩
    match result with
    | .ok success => ⟨if success then 0 else 1, screen w, none, none, w.files, w.clock⟩
    | .error t => ⟨1, screen w, some t.message, none, w.files, w.clock⟩

end BenchSweep.CommandLine
