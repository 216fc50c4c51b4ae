import BenchSweep.Override
import BenchSweep.Plan

/-! A sweep of runs: one benchmark on one target, once for every point of a sweep, each in a directory
of its own. The runs go one after the other, and the first that fails ends the sweep. -/
set_option autoImplicit false

namespace BenchSweep

structure Campaign where
  benchmark : Benchmark
  target : Target
  settings : RunSettings
  policy : Policy
  overrides : List Override
  /-- Where the results of all runs are kept. -/
  output : Path

namespace Campaign

/-- The values of the parameters in each run. -/
def points (c : Campaign) : Except Failure (List Params) := sweep c.benchmark.params c.overrides

/-- The directories of `count` runs that start at this time. A single run has one named after the
time; several share it and have one in it each, named by its number. -/
def directories (c : Campaign) (startedAt : Nat) (count : Nat) : List Path :=
  let named (p : Path) : Path :=
    (p.child (Instant.dateText startedAt)).child (Instant.timeText "-" startedAt)
  if count = 1 then [named c.output]
  else
    let base := named (c.output.child "multirun")
    (List.range count).map fun i => base.child (String.ofList (Decimal.digits i))

/-- The run in which the parameters have these values. -/
def plan (c : Campaign) (params : Params) (directory : Path) : Plan where
  benchmark := { c.benchmark with params := params }
  target := c.target
  settings := c.settings
  policy := c.policy
  directory := directory

/-- All runs of a campaign that starts at this time. -/
def plans (c : Campaign) (startedAt : Nat) : Except Failure (List Plan) :=
  c.points.map fun points => List.zipWith c.plan points (c.directories startedAt points.length)

end Campaign

/-- Takes the outcome of a run. -/
abbrev Announcement (σ : Type) := Plan → Outcome → World σ → World σ

/-- Runs plans in turn, each with its own executor, up to the first that fails. -/
def runInTurn {σ : Type} (execute : Plan → Executor σ) (announce : Announcement σ) :
    List Plan → Run σ Unit
  | [] => return ()
  | p :: rest => do
    Run.report .info s!"Output directory: {p.directory.text}"
    let outcome ← p.run (execute p)
    modify (announce p outcome)
    runInTurn execute announce rest

/-- Runs a whole campaign. -/
def Campaign.run {σ : Type} (c : Campaign) (execute : Plan → Executor σ)
    (announce : Announcement σ) : Run σ Unit := do
  let plans ← Run.of (c.plans (← Run.now))
  if 1 < plans.length then Run.report .info s!"Sweeping {plans.length} parameter combinations"
  runInTurn execute announce plans

end BenchSweep
