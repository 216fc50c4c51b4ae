import BenchSweep.SampleFormat
import BenchSweep.Stage
import BenchSweep.Value

/-! Definitions of benchmarks and targets. A target has command lines for some stages of a run; a
benchmark declares parameters and binds them, for each target that it supports, to fragments of
those command lines. -/
set_option autoImplicit false

namespace BenchSweep

/-! ## Command lines -/

/-- An element of a command line before it is filled in. -/
inductive Token where
  | literal (text : String)
  | group (slot : Slot)
  | setting (setting : Setting)
deriving DecidableEq

abbrev Command := List Token

namespace Command

/-- The executable, if the command line starts with a literal that is not empty. -/
def program? : Command → Option String
  | .literal text :: _ => if text = "" then none else some text
  | _ => none

/-- The groups that the command line takes in, one for each occurrence. -/
def slots (c : Command) : List Slot :=
  c.filterMap fun
    | .group slot => some slot
    | _ => none

end Command

/-! ## Benchmarks -/

/-- The fragments that each parameter gives to a command line, in order. -/
abbrev ArgumentGroup := OrderedMap String (List String)

/-- How a benchmark passes its parameters to one target. -/
structure Binding where
  gen : Option ArgumentGroup
  compile : Option ArgumentGroup
  run : Option ArgumentGroup
  /-- Goes before the format of the target. -/
  format : Option SampleFormat
deriving DecidableEq

namespace Binding

def group (b : Binding) : Slot → Option ArgumentGroup
  | .gen => b.gen
  | .compile => b.compile
  | .run => b.run

end Binding

structure Benchmark where
  name : String
  params : Params
  /-- A binding for each target that the benchmark supports. -/
  targets : OrderedMap String Binding
deriving DecidableEq

namespace Benchmark

def binding? (b : Benchmark) (target : String) : Option Binding := b.targets.get? target

def supports (b : Benchmark) (target : String) : Bool := b.targets.contains target

end Benchmark

/-! ## Targets -/

structure Target where
  name : String
  params : Params
  format : Option SampleFormat
  prepare : Option Command
  copy : Option Command
  gen : Option Command
  compile : Option Command
  run : Option Command
deriving DecidableEq

namespace Target

/-- The command line of a stage, if the target defines one. -/
def command (t : Target) : Stage → Option Command
  | .prepare => t.prepare
  | .copy => t.copy
  | .gen => t.gen
  | .compile => t.compile
  | .run => t.run

/-- The stages that the target defines, in the order in which they run. -/
def commands (t : Target) : List (Stage × Command) :=
  Stage.all.filterMap fun s => (t.command s).map (s, ·)

/-- The first stage whose command line does not start with an executable. -/
def faultyStage? (t : Target) : Option Stage :=
  (t.commands.find? fun (_, c) => c.program?.isNone).map Prod.fst

end Target

end BenchSweep
