import BenchSweep.Execution
import BenchSweep.Shell.Interpreter

/-! Commands started as processes of a host that has a shell and the usual programs. A process reads
nothing, writes all of its output to one pipe and shares the files and the clock with the run. -/
set_option autoImplicit false

namespace BenchSweep.Shell

/-! ## The host -/

namespace Host

/-- The directories of the host. -/
def directories : List Location :=
  [["bin"], ["boot"], ["dev"], ["dev", "fd"], ["dev", "pts"], ["dev", "shm"], ["etc"], ["home"],
    ["lib"], ["media"], ["mnt"], ["opt"], ["proc"], ["root"], ["run"], ["sbin"], ["srv"], ["sys"],
    ["tmp"], ["usr"], ["usr", "bin"], ["usr", "lib"], ["usr", "local"], ["usr", "local", "bin"],
    ["usr", "local", "sbin"], ["usr", "sbin"], ["usr", "share"], ["var"], ["var", "lib"],
    ["var", "log"], ["var", "tmp"]]

/-- The devices of the host. -/
def devices : List Location :=
  ["null", "full", "zero", "random", "urandom", "tty", "stdin", "stdout", "stderr"].map (["dev", ·]) ++
    ["0", "1", "2"].map (["dev", "fd", ·])

/-- The directories of the host and what stands in them. -/
def nodes : List (Location × Node) :=
  directories.map (·, .directory) ++ devices.map (·, .file []) ++
  Start.programNames.flatMap fun name =>
    [(["bin", name], .program name), (["usr", "bin", name], .program name)]

/-- The files of the host alone, seen from the root. -/
def files : Files := ⟨OrderedMap.ofList nodes, []⟩

/-- The variables that every program sees. -/
def environment : List (String × String) := [("PATH", usualPlaces), ("HOME", "/root")]

end Host

/-! ## Starting -/

/-- Scripts are nested at most this deep. -/
def depthLimit : Nat := 20000

/-- The files seen from the directory in which a command works. -/
def workplace (fs : Files) : Option Path → Except HostFault Files
  | none => .ok fs
  | some p =>
    if p.text.toList.contains '\x00' then .error .nulInWord
    else
      match fs.find p with
      | .ok (place, .directory) => .ok (fs.within place)
      | .ok _ => .error .notADirectory
      | .error e => .error e

/-- The files as a command sees them and the program that it starts, or why it cannot be started. -/
def starting (fs : Files) (directory : Option Path) (i : Invocation) :
    Except HostFault (Files × String) := do
  if (i.program :: i.args).any fun word => word.toList.contains '\x00' then .error .nulInWord
  let there ← workplace fs directory
  let (_, program) ← findProgram there usualPlaces i.program
  return (there, program)

/-- The number of the first process. -/
def firstProcess : Nat := 1000

/-- A process that has not done anything yet. -/
def newSession (fs : Files) (clock : Nat) : Session where
  name := ""
  command := none
  arguments := .ofList []
  values := OrderedMap.ofList Host.environment
  exported := (Host.environment.map Prod.fst).reverse
  fixed := []
  functions := []
  aliases := []
  options := []
  status := 0
  substituted := 0
  descriptors := [(0, .null), (1, .pipe 0), (2, .pipe 0)]
  refused := none
  process := firstProcess
  self := firstProcess
  parent := firstProcess - 1
  line := 1
  reached := 1
  tested := false
  loops := 0
  calls := 0
  traps := []
  locals := []
  jobs := []
  lastJob := none
  hashed := []
  mask := 18
  machine := ⟨fs, clock, clock, #[[]], firstProcess, []⟩

/-- What a process of this program leaves behind. -/
def processOf (fs : Files) (clock : Nat) (program : String) (i : Invocation) : Process × Machine :=
  let act := Start.perform (runScript depthLimit) Start.starterLimit program i.program i.args
  let (flow, s) := act.run (newSession fs clock)
  let ending := match flow with
    | .killed signal => Ending.killed signal
    | _ => .exited (UInt8.ofNat s.status)
  (⟨(Act.inOrder (s.machine.pipes.getD 0 [])).map Chunk.bytes, ending⟩, s.machine)

/-- Starts commands in this directory, or else where the run works. -/
def launch {σ : Type} (directory : Option Path) : Launcher σ := fun i => do
  let w ← get
  match starting w.files directory i with
  | .error fault => return .error fault
  | .ok (fs, program) =>
    let (process, machine) := processOf fs w.clock program i
    set { w with files := machine.files.within w.files.here, clock := max machine.clock machine.latest }
    return .ok process

end BenchSweep.Shell
