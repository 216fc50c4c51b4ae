import BenchSweep.Files
import BenchSweep.Log

/-! What a run sees and changes. A run may fail at any point; what it changed until then stays
changed, so the world comes back beside the answer. -/
set_option autoImplicit false

namespace BenchSweep

/-- The files, the time in nanoseconds since the start of 1970, the messages so far and whatever else
the one who runs it keeps. -/
structure World (σ : Type) where
  files : Files
  clock : Nat
  log : List Event
  state : σ

/-- A computation that may fail and keeps the world it leaves behind. -/
abbrev Run (σ α : Type) : Type := ExceptT Failure (StateM (World σ)) α

namespace Run

variable {σ α : Type}

/-- The answer of a run that starts in `w`, and the world after it. -/
def on (r : Run σ α) (w : World σ) : Except Failure α × World σ := (ExceptT.run r).run w

def fail (f : Failure) : Run σ α := throw f

/-- The value, if it is one. -/
def of : Except Failure α → Run σ α
  | .ok a => pure a
  | .error f => fail f

def report (level : Level) (message : String) : Run σ Unit :=
  modify fun w => { w with log := w.log ++ [⟨level, message, none⟩] }

def files : Run σ Files := return (← get).files

/-- The time in nanoseconds since the start of 1970. -/
def now : Run σ Nat := return (← get).clock

/-- Makes all directories along a path. -/
def makeDirectories (p : Path) : Run σ Unit := do
  let (fs, fault) := (← files).makeDirectories p
  modify fun w => { w with files := fs }
  match fault with
  | none => pure ()
  | some fault => fail (.host fault)

/-- Writes a whole file. -/
def write (p : Path) (content : List UInt8) : Run σ Unit := do
  match (← files).write p content with
  | .ok fs => modify fun w => { w with files := fs }
  | .error fault => fail (.host fault)

end Run

end BenchSweep
