import BenchSweep.Definition
import BenchSweep.Execution

/-! The stages of one run of a target. All defined stages are executed in order; only the output of
the last one is read for samples. -/
set_option autoImplicit false

namespace BenchSweep

/-- Reads the samples in the lines of a run. -/
abbrev OutputReader := List String → Except Failure (List Binary64)

namespace Target

/-- The stages before the last that the target defines, in the order in which they run. -/
def setupCommands (t : Target) : List (Stage × Command) :=
  Stage.setup.filterMap fun s => (t.command s).map (s, ·)

/-- Builds and executes the command of one stage. -/
def perform {σ : Type} (t : Target) (execute : Executor σ) (r : Resolver) (b : Binding)
    (s : Stage) (c : Command) : Run σ Execution := do
  Run.report .info s!"Stage {s.name} of target {t.name}"
  execute (← Run.of (r.build b c))

/-- Executes all stages and reads the samples of the last one. -/
def runStages {σ : Type} (t : Target) (execute : Executor σ) (r : Resolver) (b : Binding)
    (read : OutputReader) : Run σ (List Binary64) := do
  match t.run with
  | none => Run.fail (.noRunCommand t.name)
  | some run =>
    t.setupCommands.forM fun (s, c) => do
      let _ ← t.perform execute r b s c
    let e ← t.perform execute r b .run run
    let times ← Run.of (read e.lines)
    Run.report .info s!"Parsed {times.length} timing samples"
    return times

end Target

end BenchSweep
