import BenchSweep.Shell.Session
import BenchSweep.Shell.Signal

/-! Texts carried out, signals attended to and processes brought to their end. Every step takes `run`,
by which it carries out a script. -/
set_option autoImplicit false

namespace BenchSweep.Shell

namespace Act

/-- Ends a process with this status. -/
def exit (n : Nat) : Act Flow := do
  setStatus n
  return .exit

/-- Tells of a fault that ends the script. -/
def abandon (message : String) : Act Flow := do
  complainHere message
  setStatus 2
  return .fault

/-- A step during which faults name this command of the shell. -/
def named {α : Type} (command : Option String) (step : Act α) : Act α := do
  let outer := (← get).command
  modify fun s => { s with command := command }
  let a ← step
  modify fun s => { s with command := outer }
  return a

end Act

namespace Process

/-! ## Texts -/

/-- Carries out the lines of a text one by one; `ran` tells whether there was one. A misspelt one ends
the script where the fault is. -/
def runLines (run : Script → Act Flow) : Nat → (ran : Bool) → Source → Act Flow
  | 0, _, _ => return .next
  | n + 1, ran, source => do
    let aliases := (← get).aliases
    match ({ source with aliases := aliases }).nextLine with
    | .error fault =>
      modify fun s => { s with line := fault.line }
      Act.abandon s!"Syntax error: {fault.message}"
    | .ok none =>
      if !ran then Act.setStatus 0
      return .next
    | .ok (some ([], after)) => runLines run n ran after
    | .ok (some (script, after)) =>
      modify fun s => { s with reached := after.line }
      match ← run script with
      | .next => runLines run n true after
      | flow => return flow

/-- Carries out a text, which succeeds if there is nothing to do. -/
def runText (run : Script → Act Flow) (text : String) : Act Flow := do
  let outer := (← get).reached
  let flow ← runLines run (text.length + 1) false (Source.ofText text.toList)
  modify fun s => { s with reached := outer }
  return flow

/-! ## Signals -/

/-- Sends a signal to a process that looks for it later. -/
def post (process signal : Nat) : Act Unit :=
  Act.changeMachine fun m => { m with signals := (process, signal) :: m.signals }

/-- Carries out what is to be done on a signal; the status is as before behind it. -/
def onSignal (run : Script → Act Flow) (signal : Nat) : Act Flow := do
  let traps := (← get).traps
  match if Signal.inescapable signal then none else traps.lookup signal with
  | none => return if Signal.harmless signal then .next else .killed signal
  | some action =>
    let status := (← get).status
    match ← Act.named none (runText run action) with
    | .next =>
      Act.setStatus status
      return .next
    | flow => return flow

/-- Attends to the signals that the process got. -/
def attend (run : Script → Act Flow) : Act Flow := do
  let s ← get
  let mine := s.machine.signals.filter (·.1 = s.self)
  if mine.isEmpty then return .next
  Act.changeMachine fun m => { m with signals := m.signals.filter (·.1 ≠ s.self) }
  mine.reverse.foldlM (fun flow (_, signal) => do
    match flow with
    | .next => onSignal run signal
    | _ => return flow) .next

/-- The first signal that the process got and that ends it, if there is one. -/
def struck : Act (Option Nat) := do
  let s ← get
  return (s.machine.signals.reverse.find? fun (process, signal) =>
    process = s.self && !Signal.harmless signal &&
      (Signal.inescapable signal || (s.traps.lookup signal).isNone)).map Prod.snd

/-! ## Ends -/

/-- Takes back what processes wrote from a time on, which they never came to write. -/
def cutShort (isLate : Chunk → Bool) : Act Unit :=
  Act.changeMachine fun m => { m with pipes := m.pipes.map (·.filter fun c => !isLate c) }

/-- What is left to do at the end of a process. -/
def finish (run : Script → Act Flow) (flow : Flow) : Act Flow := do
  match flow with
  | .killed signal => return .killed signal
  | _ =>
    match (← get).traps.lookup 0 with
    | none => return .exit
    | some action =>
      let status := (← get).status
      modify fun s => { s with traps := s.traps.filter (·.1 ≠ 0) }
      match ← Act.named none (runText run action) with
      | .killed signal => return .killed signal
      | .exit => return .exit
      | .fault => return .exit
      | _ => Act.exit status

/-- Carries out a step as a process of its own up to its end. -/
def branch (run : Script → Act Flow) (step : Act Flow) : Act (Flow × Nat) :=
  Act.isolated (do finish run (← step))

/-- The status that the end of a process is to the shell; a signal is told of. -/
def reap (ended : Flow × Nat) : Act Nat := do
  let s ← get
  if s.traps.any (·.1 = Signal.child) then post s.self Signal.child
  match ended with
  | (.killed signal, _) =>
    if let some text := Signal.text signal then Act.complain text
    return 128 + signal
  | (_, status) => return status

end Process

end BenchSweep.Shell
