import BenchSweep.Decimal.Notation
import BenchSweep.Files
import BenchSweep.Shell.Arithmetic
import BenchSweep.Shell.Parser

/-! What a shell knows while it runs: its parameters, where its descriptors lead, and the machine that
it shares with the processes around it. Processes run one after the other, so a pipe holds all that
was written to it until somebody reads; each piece in it remembers when it was written. -/
set_option autoImplicit false

namespace BenchSweep.Shell

/-- Where a descriptor leads. -/
inductive Channel where
  | pipe (index : Nat)
  /-- What is left of a file that was opened to be read. -/
  | reading (index : Nat)
  | file (place : Location)
  | folder
  | null
  /-- A device without room. -/
  | full
deriving DecidableEq

/-- Why a descriptor cannot be read from or written to. -/
inductive Refusal where
  | closed
  | full
  | folder
deriving DecidableEq

def Refusal.reason : Refusal → String
  | closed => "Bad file descriptor"
  | full => "No space left on device"
  | folder => "Is a directory"

/-- What a process wrote at once. -/
structure Chunk where
  time : Nat
  writer : Nat
  bytes : List UInt8

/-- What all processes share. -/
structure Machine where
  files : Files
  /-- The time in nanoseconds since the start of 1970. -/
  clock : Nat
  /-- The latest time at which a process ended. -/
  latest : Nat
  /-- What was written to each pipe, the last piece first. What was read is gone. -/
  pipes : Array (List Chunk)
  /-- The number of the process that was started last. -/
  started : Nat
  /-- Signals that were sent to a process and not looked at, the last one first. -/
  signals : List (Nat × Nat)

/-- A process that nobody waits for at first. -/
structure Job where
  /-- The number by which the shell knows it. -/
  index : Nat
  process : Nat
  /-- The number of the last process that it started. -/
  lastProcess : Nat
  status : Nat
  finished : Nat
  /-- The signal that ended it. -/
  killedBy : Option Nat
deriving DecidableEq

/-- What a variable was before, or the options that were on if its name is `-`. -/
structure Saved where
  name : String
  value : Option String
  exported : Bool
  fixed : Bool

/-- The parameters of a script or a function. -/
structure Arguments where
  values : List String
  /-- Which of them `getopts` looks at next, counted from one. -/
  nextOption : Nat
  /-- Where in the one before it goes on, if it is there. -/
  inside : Option Nat

def Arguments.ofList (values : List String) : Arguments := ⟨values, 1, none⟩

structure Session where
  /-- The name of the script. -/
  name : String
  /-- The command of the shell that is carried out, as faults name it. -/
  command : Option String
  arguments : Arguments
  values : OrderedMap String String
  /-- The variables that programs see. -/
  exported : List String
  /-- The variables that cannot be changed. -/
  fixed : List String
  functions : List (String × Command)
  aliases : List (String × String)
  /-- The letters of the options that are on. -/
  options : List Char
  /-- How the last command ended. -/
  status : Nat
  /-- How the last script ended whose output the words of this command contain. -/
  substituted : Nat
  descriptors : List (Nat × Channel)
  /-- Why the output was refused since a program started. -/
  refused : Option Refusal
  /-- The process that the script was started as. -/
  process : Nat
  /-- The process that carries the script out. -/
  self : Nat
  /-- The process that started the one that carries the script out. -/
  parent : Nat
  line : Nat
  /-- The line that the script has been read up to. -/
  reached : Nat
  /-- Whether a failure is only looked at, so that it does not stop the script. -/
  tested : Bool
  /-- How many loops the command stands in. -/
  loops : Nat
  /-- How many functions the command stands in. -/
  calls : Nat
  /-- What is done on a signal; 0 stands for the end of the script. -/
  traps : List (Nat × String)
  /-- What local variables were outside of the function, the last one first. -/
  locals : List Saved
  jobs : List Job
  lastJob : Option Nat
  /-- The programs that were found by their names. -/
  hashed : List String
  /-- The permissions that new files do not get. -/
  mask : Nat
  machine : Machine

namespace Session

/-- Whether an option is on. -/
def has (s : Session) (option : Char) : Bool := s.options.contains option

/-- The options by letter and name, in the order in which they are listed. -/
def optionNames : List (Option Char × String) :=
  [(some 'e', "errexit"), (some 'f', "noglob"), (some 'I', "ignoreeof"), (some 'i', "interactive"),
    (some 'm', "monitor"), (some 'n', "noexec"), (some 's', "stdin"), (some 'x', "xtrace"),
    (some 'v', "verbose"), (some 'V', "vi"), (some 'E', "emacs"), (some 'C', "noclobber"),
    (some 'a', "allexport"), (some 'b', "notify"), (some 'u', "nounset"), (some 'p', "privileged"),
    (none, "nolog"), (none, "debug")]

/-- The letters of the options that are on, in their order. -/
def optionLetters (s : Session) : String :=
  String.ofList ((optionNames.filterMap Prod.fst).reverse.filter s.has)

def withOption (on : Bool) (option : Char) (s : Session) : Session :=
  { s with options := if on then s.options.insert option else s.options.erase option }

end Session

/-- A step of a shell. -/
abbrev Act (α : Type) := StateM Session α

/-- How a script goes on behind a command. -/
inductive Flow where
  | next
  /-- The process ends with the status of the session. -/
  | exit
  /-- A signal ends the process. -/
  | killed (signal : Nat)
  /-- Leaves this many loops. -/
  | leave (loops : Nat)
  /-- Goes on with the next round of the loop around this many others. -/
  | again (loops : Nat)
  /-- Leaves a function. -/
  | back
  /-- A fault ends the script, unless a command was only tried. -/
  | fault

namespace Act

def setStatus (n : Nat) : Act Unit := modify fun s => { s with status := n }

/-- Ends a command with this status. -/
def done (n : Nat) : Act Flow := do
  setStatus n
  return .next

def changeMachine (f : Machine → Machine) : Act Unit :=
  modify fun s => { s with machine := f s.machine }

def files : Act Files := return (← get).machine.files

def setFiles (fs : Files) : Act Unit := changeMachine fun m => { m with files := fs }

/-! ## Variables -/

def value? (name : String) : Act (Option String) := return (← get).values.get? name

/-- Gives a variable a value, whatever it is. -/
def assign (name value : String) : Act Unit := modify fun s =>
  { s with
    values := s.values.insert name value
    exported := if s.has 'a' then s.exported.insert name else s.exported
    arguments := if name = "OPTIND" then
        { s.arguments with nextOption := max 1 (Arithmetic.ofDigits 10 value.toList), inside := none }
      else s.arguments }

/-- What a variable is now. -/
def saved (name : String) : Act Saved := do
  let s ← get
  if name = "-" then return ⟨name, some (String.ofList s.options), false, false⟩
  else return ⟨name, s.values.get? name, s.exported.contains name, s.fixed.contains name⟩

/-- The list with or without an element. -/
def marked {α : Type} [BEq α] (on : Bool) (a : α) (as : List α) : List α :=
  if on then as.insert a else as.erase a

/-- Makes a variable again what it was before. -/
def restore (v : Saved) : Act Unit := modify fun s =>
  if v.name = "-" then { s with options := (v.value.getD "").toList }
  else
    { s with
      values := match v.value with
        | some value => s.values.insert v.name value
        | none => s.values.erase v.name
      exported := marked v.exported v.name s.exported
      fixed := marked v.fixed v.name s.fixed }

/-! ## Time -/

def clock : Act Nat := return (← get).machine.clock

def setClock (t : Nat) : Act Unit := changeMachine fun m => { m with clock := t }

/-- Waits until this time. -/
def waitUntil (t : Nat) : Act Unit := do setClock (max t (← clock))

/-- Lets so many nanoseconds pass. -/
def spend (n : Nat) : Act Unit := changeMachine fun m => { m with clock := m.clock + n }

/-! ## Descriptors -/

def channel? (descriptor : Nat) : Act (Option Channel) :=
  return (← get).descriptors.lookup descriptor

def setChannel (descriptor : Nat) (c : Channel) : Act Unit := modify fun s =>
  { s with descriptors := (descriptor, c) :: s.descriptors.filter (·.1 ≠ descriptor) }

def close (descriptor : Nat) : Act Unit :=
  modify fun s => { s with descriptors := s.descriptors.filter (·.1 ≠ descriptor) }

/-- Opens a new pipe that holds these bytes. -/
def openPipe (bytes : List UInt8) : Act Nat := do
  let index := (← get).machine.pipes.size
  changeMachine fun m =>
    { m with pipes := m.pipes.push (if bytes.isEmpty then [] else [⟨0, 0, bytes⟩]) }
  return index

/-- The pieces that a pipe holds in the order in which they were written. -/
def inOrder (pieces : List Chunk) : List Chunk :=
  pieces.reverse.mergeSort fun a b => decide (a.time ≤ b.time)

/-- Takes all that a pipe holds, which may take until the last piece comes. -/
def drain (index : Nat) : Act (List UInt8) := do
  let pieces := inOrder ((← get).machine.pipes.getD index [])
  changeMachine fun m => { m with pipes := m.pipes.setIfInBounds index [] }
  waitUntil ((pieces.getLast?.map Chunk.time).getD 0)
  return pieces.flatMap Chunk.bytes

/-- Writes one piece, if the descriptor takes it. -/
def writeTo (descriptor : Nat) (piece : List UInt8) : Act (Option Refusal) := do
  match ← channel? descriptor with
  | some .null => return none
  | some (.pipe index) =>
    if piece.isEmpty then return none
    let writer := (← get).self
    changeMachine fun m =>
      { m with pipes := m.pipes.modify index fun pieces => ⟨m.clock, writer, piece⟩ :: pieces }
    return none
  | some (.file place) =>
    let fs ← files
    let before := match fs.node? place with
      | some (.file content) => content
      | _ => []
    setFiles (fs.put place (.file (before ++ piece)))
    return none
  | some .full => return if piece.isEmpty then none else some .full
  | _ => return some .closed

/-- Writes to the output and remembers if it is refused. -/
def emit (piece : List UInt8) : Act Unit := do
  match ← if piece.isEmpty then pure none else writeTo 1 piece with
  | none => pure ()
  | some r => modify fun s => { s with refused := some r }

/-- Writes a text to the output. -/
def say (text : String) : Act Unit := emit (Text.Utf8.bytes text)

/-- Writes a line to the output for faults. -/
def complain (text : String) : Act Unit := do
  let _ ← writeTo 2 (Text.Utf8.bytes (text ++ "\n"))

/-- Complains with the name of the script, the line and the command of the shell. -/
def complainHere (text : String) : Act Unit := do
  let s ← get
  let command := match s.command with
    | some c => c ++ ": "
    | none => ""
  complain s!"{s.name}: {s.line}: {command}{text}"

/-- All that is left of the input. -/
def readInput : Act (Except Refusal (List UInt8)) := do
  match ← channel? 0 with
  | some (.pipe index) => return .ok (← drain index)
  | some (.reading index) => return .ok (← drain index)
  | some .folder => return .error .folder
  | some _ => return .ok []
  | none => return .error .closed

/-- Puts bytes back that were read from the input. -/
def unread (bytes : List UInt8) : Act Unit := do
  let put (index : Nat) : Act Unit :=
    if bytes.isEmpty then pure ()
    else changeMachine fun m =>
      { m with pipes := m.pipes.setIfInBounds index [⟨m.clock, 0, bytes⟩] }
  match ← channel? 0 with
  | some (.pipe index) => put index
  | some (.reading index) => put index
  | _ => pure ()

/-- The next line of the input without its line feed, and whether it has one. -/
def readInputLine : Act (List UInt8 × Bool) := do
  match ← readInput with
  | .ok bytes =>
    let line := bytes.takeWhile (· ≠ 0x0A)
    unread (bytes.drop (line.length + 1))
    return (line, line.length < bytes.length)
  | .error _ => return ([], false)

/-! ## Processes -/

/-- The number of a new process. -/
def newProcess : Act Nat := do
  changeMachine fun m => { m with started := m.started + 1 }
  return (← get).machine.started

/-- Carries a step out as a process of its own, which shares the machine alone. Gives the status in
which it ends. -/
def isolated {α : Type} (step : Act α) : Act (α × Nat) := do
  let outer ← get
  let number ← newProcess
  modify fun s => { s with
    self := number, parent := outer.self, jobs := [], traps := outer.traps.filter fun (_, action) => action.isEmpty }
  let a ← step
  let inner ← get
  let m := inner.machine
  let fs := m.files.within outer.machine.files.here
  set { outer with machine := { m with files := fs, latest := max m.latest m.clock } }
  return (a, inner.status)

end Act

end BenchSweep.Shell
