import BenchSweep.Path
import BenchSweep.Policy
import BenchSweep.Toml.Decode
import BenchSweep.Toml.Writer

/-! The settings of the program: defaults for runs and the places of its files. Every setting has a
default but the number of threads, which is left to the host where it is not given. -/
set_option autoImplicit false

namespace BenchSweep

structure RunDefaults where
  iterations : UInt32
  threads : Option UInt64
  continueOnError : Bool
deriving DecidableEq

def RunDefaults.standard : RunDefaults := ⟨12, none, false⟩

/-- The number of threads, which the number of processors decides where it is open. -/
def RunDefaults.resolvedThreads (r : RunDefaults) (processors : UInt64) : UInt64 :=
  r.threads.getD processors

def RunDefaults.policy (r : RunDefaults) : Policy := Policy.ofFlag r.continueOnError

/-- Where definitions are read and results are written. -/
structure Places where
  benchmarks : Path
  targets : Path
  output : Path
deriving DecidableEq

def Places.standard : Places := ⟨⟨"conf/benchmark"⟩, ⟨"conf/target"⟩, ⟨"outputs"⟩⟩

structure Configuration where
  run : RunDefaults
  places : Places
deriving DecidableEq

namespace Configuration

def standard : Configuration := ⟨RunDefaults.standard, Places.standard⟩

/-! ## Reading -/

def iterations? (v : Toml.Value) : Option UInt32 := (v.nat? (Nat.pow 2 32)).map UInt32.ofNat

def threads? (v : Toml.Value) : Option UInt64 := (v.nat? (Nat.pow 2 64)).map UInt64.ofNat

def path? (v : Toml.Value) : Option Path := v.text?.map Path.mk

def run? (v : Toml.Value) : Option RunDefaults := do
  let fields ← v.record? ["iterations", "threads", "continue_on_error"]
  return {
    iterations :=
      ← Toml.withDefault fields "iterations" iterations? RunDefaults.standard.iterations
    threads := ← Toml.optional fields "threads" threads?
    continueOnError := ← Toml.withDefault fields "continue_on_error" Toml.Value.bool?
      RunDefaults.standard.continueOnError }

def places? (v : Toml.Value) : Option Places := do
  let fields ← v.record? ["benchmarks_dir", "targets_dir", "output_dir"]
  return {
    benchmarks := ← Toml.withDefault fields "benchmarks_dir" path? Places.standard.benchmarks
    targets := ← Toml.withDefault fields "targets_dir" path? Places.standard.targets
    output := ← Toml.withDefault fields "output_dir" path? Places.standard.output }

/-- The configuration that a text describes. -/
def ofToml? (text : String) : Option Configuration := do
  let fields ← Toml.parse? text
  return {
    run := ← Toml.withDefault fields "run" run? RunDefaults.standard
    places := ← Toml.withDefault fields "paths" places? Places.standard }

/-! ## Writing -/

/-- The configuration in full; an open number of threads is left out. -/
def sheet (c : Configuration) : Toml.Sheet :=
  ⟨[], [
    ("run", [("iterations", .integer c.run.iterations.toNat)] ++
      (c.run.threads.toList.map fun n => ("threads", .integer n.toNat)) ++
      [("continue_on_error", .bool c.run.continueOnError)]),
    ("paths", [("benchmarks_dir", .text c.places.benchmarks.text),
      ("targets_dir", .text c.places.targets.text), ("output_dir", .text c.places.output.text)])]⟩

/-- The text of a configuration, if its number of threads can be written. -/
def toToml? (c : Configuration) : Option String := c.sheet.write

end Configuration

end BenchSweep
