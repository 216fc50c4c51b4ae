import BenchSweep.Output
import BenchSweep.Policy
import BenchSweep.Resolution
import BenchSweep.World

/-! Commands that are executed. An executor answers for one command with the lines of its output, or
with the failure that ends the run; the usual one starts a process, passes its lines on and applies
the policy to its code. -/
set_option autoImplicit false

namespace BenchSweep

/-! ## Processes -/

/-- How a process ended: with a code, or because a signal killed it. -/
inductive Ending where
  | exited (code : UInt8)
  | killed (signal : Nat)
deriving DecidableEq

/-- The code that stands for an ending; a signal has none of its own. -/
def Ending.code : Ending → Int
  | .exited code => code.toNat
  | .killed _ => -1

/-- What a process wrote, in the pieces in which it came, and how it ended. -/
structure Process where
  output : List (List UInt8)
  ending : Ending

/-- Starts a command and waits for its end, unless the host refuses it. -/
abbrev Launcher (σ : Type) := Invocation → StateM (World σ) (Except HostFault Process)

/-! ## Executors -/

/-- What a command leaves to look at. -/
structure Execution where
  lines : List String
  code : Int
deriving DecidableEq

def Execution.succeeded (e : Execution) : Bool := e.code = 0

abbrev Executor (σ : Type) := Invocation → Run σ Execution

/-- Keeps every invocation, in order, before it is executed. -/
def Executor.recording {σ : Type} (keep : Invocation → σ → σ) (execute : Executor σ) : Executor σ :=
  fun i => do
    modify fun w => { w with state := keep i w.state }
    execute i

/-- Takes a line of output, with the name of the command that wrote it. -/
abbrev Sink (σ : Type) := (source line : String) → World σ → World σ

/-- Passes lines on as messages. -/
def logSink {σ : Type} : Sink σ := fun source line w =>
  { w with log := w.log ++ [⟨.info, line, some source⟩] }

/-- The name under which lines of a program are passed on: the last name of its path. -/
def Invocation.tag (i : Invocation) : String := (Path.fileName? ⟨i.program⟩).getD i.program

/-- Applies the policy to a code other than zero. -/
def Policy.enforce {σ : Type} (p : Policy) (i : Invocation) (e : Execution) : Run σ Execution :=
  if e.succeeded then return e
  else
    match p with
    | .goOn => do
      Run.report .error s!"Command returned with non-zero exit code ({e.code})"
      return e
    | .abort => Run.fail (.commandFailed i.program e.code)

/-- Executes a command as a process. -/
def processExecutor {σ : Type} (p : Policy) (launch : Launcher σ) (sink : Sink σ) : Executor σ :=
  fun i => do
    Run.report .info s!"run command: {i.text}"
    match ← launch i with
    | .error fault => Run.fail (.unstartable i.program fault)
    | .ok process =>
      let lines := Output.lines process.output
      modify fun w => lines.foldl (fun w line => sink i.tag line w) w
      p.enforce i ⟨lines, process.ending.code⟩

end BenchSweep
