import BenchSweep.CommandLine.Options

/-! What the program is asked for. -/
set_option autoImplicit false

namespace BenchSweep.CommandLine

/-- What a run is asked for beside the configuration. -/
structure RunRequest where
  benchmark : String
  target : String
  configuration : Option Path
  iterations : Option UInt32
  threads : Option UInt64
  continueOnError : Bool
  overrides : List Override
  output : Option Path
deriving DecidableEq

inductive Request where
  | run (r : RunRequest)
  | check (benchmark target : String) (configuration : Option Path) (json : Bool)
  | list (configuration : Option Path)
  | collect (source output : Path) (raw : Bool)
  | init (output : Path)
deriving DecidableEq

/-- The place of the configuration where none is named. -/
def usualConfiguration : Path := ⟨"bench-runner.toml"⟩

/-! ## Forms -/

def benchmarkSwitch : Switch := ⟨"benchmark", some 'b', .text, false⟩

def targetSwitch : Switch := ⟨"target", some 't', .text, false⟩

def configurationSwitch : Switch := ⟨"config", some 'c', .path, false⟩

def outputSwitch : Switch := ⟨"output", some 'o', .path, false⟩

def runForm : Form where
  switches := [benchmarkSwitch, targetSwitch, configurationSwitch,
    ⟨"iterations", some 'i', .count, false⟩, ⟨"threads", none, .longCount, false⟩,
    ⟨"continue-on-error", none, .flag, false⟩, ⟨"param", some 'p', .override, true⟩, outputSwitch]
  operands := 0

def checkForm : Form where
  switches := [benchmarkSwitch, targetSwitch, configurationSwitch, ⟨"json", none, .flag, false⟩]
  operands := 0

def listForm : Form := ⟨[configurationSwitch], 0⟩

def collectForm : Form := ⟨[⟨"raw", none, .flag, false⟩], 2⟩

def initForm : Form := ⟨[outputSwitch], 0⟩

/-! ## Requests -/

def configuration (g : Given) : Option Path := (g.value? "config").bind path?

def output (g : Given) : Option Path := (g.value? "output").bind path?

def runRequest (g : Given) : Except Refusal Request := do
  return .run {
    benchmark := ← g.required "benchmark"
    target := ← g.required "target"
    configuration := configuration g
    iterations := (g.value? "iterations").bind count?
    threads := (g.value? "threads").bind longCount?
    continueOnError := g.has "continue-on-error"
    overrides := (g.values "param").filterMap override?
    output := output g }

def checkRequest (g : Given) : Except Refusal Request := do
  return .check (← g.required "benchmark") (← g.required "target") (configuration g) (g.has "json")

def collectRequest (g : Given) : Except Refusal Request :=
  match g.operands with
  | [output, source] => .ok (.collect ⟨source⟩ ⟨output⟩ (g.has "raw"))
  | _ => .error .misuse

def commands : List (String × Form × (Given → Except Refusal Request)) :=
  [("run", runForm, runRequest), ("check", checkForm, checkRequest),
    ("list", listForm, fun g => .ok (.list (configuration g))),
    ("collect", collectForm, collectRequest),
    ("init", initForm, fun g => .ok (.init ((output g).getD usualConfiguration)))]

/-- Whether help is asked for with something that there is. -/
def helpRefusal : List String → Refusal
  | [] => .help
  | [name] => if name = "help" || (commands.lookup name).isSome then .help else .misuse
  | _ => .misuse

/-- The request that the words make. -/
def Request.ofWords : List String → Except Refusal Request
  | [] => .error .misuse
  | word :: rest =>
    match shape word with
    | .long "help" none => .error .help
    | .short 'h' _ => .error .help
    | .long "version" none => .error .version
    | .short 'V' _ => .error .version
    | .plain =>
      if word = "help" then .error (helpRefusal rest)
      else
        match commands.lookup word with
        | some (form, request) => (readWords form Given.none rest).bind request
        | none => .error .misuse
    | _ => .error .misuse

/-- How the program is called. -/
def usage : String :=
  "Usage: bench-runner COMMAND\n\n" ++
  "  run -b BENCHMARK -t TARGET [-c FILE] [-i ITERATIONS] [--threads THREADS]\n" ++
  "      [--continue-on-error] [-p KEY=VALUES]... [-o DIRECTORY]\n" ++
  "  check -b BENCHMARK -t TARGET [-c FILE] [--json]\n" ++
  "  list [-c FILE]\n" ++
  "  collect SOURCE OUTPUT [--raw]\n" ++
  "  init [-o FILE]\n"

end BenchSweep.CommandLine
