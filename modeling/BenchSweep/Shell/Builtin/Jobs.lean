import BenchSweep.Shell.Builtin.Basic

/-! The commands of the shell for signals and for processes that run beside it. -/
set_option autoImplicit false

namespace BenchSweep.Shell.Builtin

/-! ## Jobs -/

/-- The job that a word such as `%1` names. The one started last comes first. -/
def job? (jobs : List Job) (word : Option String) : Except String Job :=
  let orElse (message : String) : Option Job → Except String Job
    | some j => .ok j
    | none => .error message
  match word.map fun w => String.ofList (w.toList.drop 1) with
  | none => orElse "No current job" jobs.head?
  | some "" => orElse "No current job" jobs.head?
  | some "+" => orElse "No current job" jobs.head?
  | some "%" => orElse "No current job" jobs.head?
  | some "-" => orElse "No previous job" (jobs.drop 1).head?
  | some name =>
    let shown := "No such job: " ++ word.getD ""
    orElse shown ((number? name).bind fun n => jobs.find? (·.index = n))

/-- How a job goes. -/
def progress (now : Nat) (j : Job) : String :=
  if now < j.finished then "Running"
  else
    match j.killedBy with
    | some signal => (Signal.text signal).getD ""
    | none => if j.status = 0 then "Done" else s!"Done({j.status})"

/-- The line that tells of a job; `rank` counts the jobs that were started later. -/
def jobLine (now rank : Nat) (withProcess : Bool) (j : Job) : String :=
  let mark := if rank = 0 then "+" else if rank = 1 then "-" else " "
  let process := if withProcess then s!"{j.process} " else ""
  let text := s!"[{j.index}] {mark} {process}{progress now j}"
  text ++ String.ofList (List.replicate (33 - text.length) ' ') ++ "\n"

def jobs : Builtin := fun args =>
  withOptions ['l', 'p'] args fun flags args => do
    let s ← get
    let now ← Act.clock
    let chosen : Except String (List Job) :=
      if args.isEmpty then .ok s.jobs
      else args.mapM fun w => if w.startsWith "%" then job? s.jobs (some w)
        else .error ("No such job: " ++ w)
    match chosen with
    | .error message => Act.abandon message
    | .ok chosen =>
      chosen.forM fun j =>
        if flags.getLast? = some 'p' then Act.say s!"{j.process}\n"
        else Act.say (jobLine now ((s.jobs.idxOf? j).getD 0) (flags.contains 'l') j)
      modify fun s => { s with
        jobs := s.jobs.filter fun j => decide (now < j.finished) || !chosen.contains j }
      Act.done 0

/-- Takes a job up again, which needs a terminal. -/
def resume : Builtin := fun args =>
  withOptions [] args fun _ args => do
    match job? (← get).jobs args.head? with
    | .error message => Act.abandon message
    | .ok _ =>
      let name := args.head?.getD "(null)"
      Act.abandon s!"job {name} not created under job control"

/-- Waits for the end of a job and gives its status. -/
def await (j : Job) : Act Nat := do
  let early := decide ((← Act.clock) < j.finished) || j.killedBy.isSome
  Act.waitUntil j.finished
  if let some text := if early then j.killedBy.bind Signal.text else none then Act.complain text
  return j.status

/-- Waits for the jobs that the words name; gives the status of the last one. -/
def waitFor (status : Nat) : List String → Act Flow
  | [] => Act.done status
  | w :: ws => do
    let jobs := (← get).jobs
    if w.startsWith "%" then
      match job? jobs (some w) with
      | .ok j => waitFor (← await j) ws
      | .error message => Act.abandon message
    else withNumber w fun n => do
      match jobs.find? (·.process = n) with
      | some j => waitFor (← await j) ws
      | none => waitFor 127 ws

def wait : Builtin := fun args =>
  withOptions [] args fun _ args => do
    if args.isEmpty then
      Act.waitUntil (((← get).jobs.map Job.finished).foldl max 0)
      Act.done 0
    else waitFor 127 args

/-! ## Signals -/

/-- How long a process that ended can still be reached, in nanoseconds. -/
def lingering : Nat := Nat.pow 10 6

/-- Ends a job before its time: what it wrote later was never written. -/
def endJob (signal : Nat) (j : Job) : Act Unit := do
  let now ← Act.clock
  Process.cutShort fun c =>
    decide (j.process ≤ c.writer) && decide (c.writer ≤ j.lastProcess) && decide (now ≤ c.time)
  modify fun s =>
    let jobs := s.jobs.map fun other =>
      if other.process = j.process then
        { j with status := 128 + signal, finished := now, killedBy := some signal }
      else other
    { s with
      jobs := jobs
      machine := { s.machine with latest := (jobs.map Job.finished).foldl max now } }

/-- Sends a signal to a process; tells whether there is such a process. -/
def send (signal process : Nat) : Act (Flow × Bool) := do
  let s ← get
  let now ← Act.clock
  if process = s.self then
    if signal = 0 then return (.next, true)
    else if Signal.inescapable signal then return (.killed signal, true)
    else
      match s.traps.lookup signal with
      | some action =>
        if !action.isEmpty then Process.post process signal
        return (.next, true)
      | none => return (if Signal.harmless signal then .next else .killed signal, true)
  else if process = s.process || process = s.parent then
    if signal ≠ 0 then Process.post process signal
    return (.next, true)
  else
    match s.jobs.find? (·.process = process) with
    | some j =>
      if signal ≠ 0 && !Signal.harmless signal && now < j.finished then endJob signal j
      return (.next, decide (now < j.finished + lingering))
    | none => return (.next, false)

/-- Sends a signal to the processes that the words name. -/
def sendAll (signal : Nat) (status : Nat) : List String → Act Flow
  | [] => Act.done status
  | w :: ws => do
    let one (process : Option Nat) : Act Flow := do
      let (flow, found) ← match process with
        | some n => send signal n
        | none => pure (.next, false)
      match flow, found with
      | .next, true => sendAll signal status ws
      | .next, false =>
        Act.complainHere "No such process\n"
        sendAll signal 1 ws
      | flow, _ => return flow
    if w.startsWith "%" then
      match job? (← get).jobs (some w) with
      | .ok j => one (some j.process)
      | .error message => Act.abandon message
    else if w.startsWith "-" then
      withNumber (String.ofList (w.toList.drop 1)) fun _ => one none
    else withNumber w fun n => one (some n)

def killUsage : String :=
  "Usage: kill [-s sigspec | -signum | -sigspec] [pid | job]... or\nkill -l [exitstatus]"

/-- Lists the signals, or the one that a word stands for. -/
def listSignals : List String → Act Flow
  | [] => do
    Act.say "0\n"
    Signal.names.forM fun name => Act.say (name ++ "\n")
    Act.done 0
  | w :: _ => withNumber w fun n => do
    let signal := if 128 < n then n - 128 else n
    if 0 < signal && signal < Signal.limit then
      Act.say (Signal.name signal ++ "\n")
      Act.done 0
    else Act.abandon s!"invalid signal number or exit status: {w}"

/-- The signal that a word behind a minus names. -/
def signalOption? (args : List String) : Option Nat :=
  match args.head?.map String.toList with
  | some ('-' :: name) => Signal.ofText? (String.ofList name)
  | _ => none

def kill : Builtin := fun args => do
  if args.isEmpty then Act.abandon killUsage
  else
    match signalOption? args with
    | some signal =>
      if args.length = 1 then Act.abandon killUsage else sendAll signal 0 (args.drop 1)
    | none =>
      match options [('l', false), ('s', true)] (args.length + 1) args with
      | .error message => Act.abandon message
      | .ok (found, rest) =>
        match found.filterMap fun (c, value) => if c = 's' then some value else none with
        | value :: _ =>
          match Signal.ofText? value with
          | none => Act.abandon s!"invalid signal number or name: {value}"
          | some signal => if rest.isEmpty then Act.abandon killUsage else sendAll signal 0 rest
        | [] =>
          if found.isEmpty then
            if rest.isEmpty then Act.abandon killUsage else sendAll Signal.terminate 0 rest
          else listSignals rest

/-- What is done on signals, as commands that say so. -/
def listTraps : Act Flow := do
  let traps := (← get).traps.mergeSort fun a b => decide (a.1 ≤ b.1)
  traps.forM fun (signal, action) =>
    Act.say s!"trap -- {quoted action} {Signal.name signal}\n"
  Act.done 0

/-- Says what is done on the signals that the words name. -/
def setTraps (action : Option String) : List String → Act Flow
  | [] => Act.done 0
  | w :: ws => do
    match if w.toList.map Char.toUpper = ['E', 'X', 'I', 'T'] then some 0 else Signal.ofText? w with
    | none =>
      Act.complain s!"trap: {w}: bad trap"
      Act.done 1
    | some signal =>
      modify fun s =>
        let others := s.traps.filter (·.1 ≠ signal)
        { s with traps := match action with
          | some a => (signal, a) :: others
          | none => others }
      setTraps action ws

def trap : Builtin := fun args =>
  withOptions [] args fun _ args => do
    match args with
    | [] => listTraps
    | [w] => setTraps none [w]
    | action :: ws =>
      if (Signal.number? action).any (· < Signal.limit) then setTraps none args
      else setTraps (if action = "-" then none else some action) ws

/-- The time that the shell and its processes computed for, which is none. -/
def times : Builtin := fun args =>
  withOptions [] args fun _ _ => do
    let line := "0m0.000000s 0m0.000000s\n"
    Act.say (line ++ line)
    Act.done 0

end BenchSweep.Shell.Builtin
