import BenchSweep.Calendar
import BenchSweep.World

/-! What the program shows: lines that answer a request and, between them, the messages of the runs. -/
set_option autoImplicit false

namespace BenchSweep.CommandLine

/-- A line of an answer, and how many messages stand before it. -/
structure Shown where
  messages : Nat
  line : String

/-- The lines of an answer so far, and whatever else the one who meets the request keeps. -/
structure Screen (σ : Type) where
  shown : List Shown
  state : σ

/-- Why a request is not met. -/
inductive Trouble where
  | failure (f : Failure)
  /-- The configuration can be neither read nor written, or a path of it leads nowhere. -/
  | host (fault : HostFault)
  | configuration
  | notADirectory (p : Path)
deriving DecidableEq

def Trouble.message : Trouble → String
  | .failure f => f.message
  | .host fault => fault.message
  | .configuration => "TOML parse error"
  | .notADirectory p => s!"Not a directory: {p.text}"

/-- The world in which a line more is shown. -/
def showLine {σ : Type} (line : String) (w : World (Screen σ)) : World (Screen σ) :=
  { w with state := { w.state with shown := w.state.shown ++ [⟨w.log.length, line⟩] } }

/-- A request that is being met. -/
abbrev Console (σ α : Type) := ExceptT Trouble (StateM (World (Screen σ))) α

namespace Console

variable {σ α : Type}

/-- Shows a line, or the lines of a text. -/
def say (line : String) : Console σ Unit := modify (showLine line)

def refuse (t : Trouble) : Console σ α := throw t

/-- A run as part of a request. -/
def running (r : Run (Screen σ) α) : Console σ α := do
  let (answer, w) := r.on (← get)
  set w
  match answer with
  | .ok a => return a
  | .error f => refuse (.failure f)

/-- The value, unless the host refuses it. -/
def allowed : Except HostFault α → Console σ α
  | .ok a => return a
  | .error fault => refuse (.host fault)

end Console

/-! ## Text -/

/-- A message as a line behind the time, with the name of a command at the end. -/
def eventText (time : Nat) (e : Event) : String :=
  let level := e.level.name
  let gap := String.ofList (List.replicate (5 - level.length) ' ')
  let command := match e.command with
    | some name => " command=" ++ Text.quoted name
    | none => ""
  s!"{Instant.text time} {gap}{level} {e.message}{command}\n"

/-- The messages that count from `i` on and the lines between them, as they are shown. -/
def screenFrom (time i : Nat) (shown : List Shown) : List Event → String
  | [] => String.join (shown.map fun s => s.line ++ "\n")
  | e :: events =>
    let before := shown.takeWhile (·.messages ≤ i)
    String.join (before.map fun s => s.line ++ "\n") ++
      (if e.level = .debug then "" else eventText time e) ++
      screenFrom time (i + 1) (shown.drop before.length) events

/-- All that a request shows. -/
def screen {σ : Type} (w : World (Screen σ)) : String :=
  screenFrom w.clock 0 w.state.shown w.log

end BenchSweep.CommandLine
