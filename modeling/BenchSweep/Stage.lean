/-! The stages of a run and the argument groups that benchmarks give to some of them. -/
set_option autoImplicit false

namespace BenchSweep

/-- A step in the life of a target. -/
inductive Stage where
  | prepare
  | copy
  | gen
  | compile
  | run
deriving DecidableEq

namespace Stage

def name : Stage → String
  | .prepare => "prepare"
  | .copy => "copy"
  | .gen => "gen"
  | .compile => "compile"
  | .run => "run"

/-- The stages before the one that is measured, in the order in which they run. -/
def setup : List Stage := [.prepare, .copy, .gen, .compile]

/-- All stages in the order in which they run. -/
def all : List Stage := setup ++ [.run]

theorem mem_all (s : Stage) : s ∈ all := by cases s <;> decide

end Stage

/-- A place in a command line that a benchmark fills with the arguments of one of its groups. -/
inductive Slot where
  | gen
  | compile
  | run
deriving DecidableEq

namespace Slot

def name : Slot → String
  | .gen => "gen"
  | .compile => "compile"
  | .run => "run"

/-- The name of the group in the definition of a benchmark. -/
def groupName : Slot → String
  | .gen => "gen_args"
  | .compile => "compile_args"
  | .run => "run_args"

def all : List Slot := [.gen, .compile, .run]

theorem mem_all (s : Slot) : s ∈ all := by cases s <;> decide

end Slot

/-- A setting of the run that a command line can show. -/
inductive Setting where
  | iterations
  | threads
deriving DecidableEq

def Setting.name : Setting → String
  | .iterations => "iterations"
  | .threads => "threads"

end BenchSweep
