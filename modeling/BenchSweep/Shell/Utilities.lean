import BenchSweep.Shell.Utility.Characters
import BenchSweep.Shell.Utility.Edit
import BenchSweep.Shell.Utility.Order
import BenchSweep.Shell.Utility.Time
import BenchSweep.Shell.Utility.Tree

/-! The programs of the host by name, but for those that start others. -/
set_option autoImplicit false

namespace BenchSweep.Shell

/-- The programs by name. -/
def Utility.all : List (String × Utility) :=
  [("echo", echo), ("printf", printf), ("cat", cat), ("tee", tee), ("yes", yes),
    ("true", fun _ => return 0), ("false", fun _ => return 1), ("seq", seq), ("expr", expr),
    ("date", date), ("sleep", sleep), ("ls", ls), ("dir", ls), ("touch", touch), ("mkdir", mkdir),
    ("rm", rm), ("rmdir", rmdir), ("cp", cp), ("mv", mv), ("grep", grep), ("sed", sed), ("head", head),
    ("tail", tail), ("tac", tac), ("rev", rev), ("nl", nl), ("paste", paste), ("sort", sort),
    ("uniq", uniq), ("wc", wc), ("tr", tr), ("cut", cut), ("od", od), ("basename", basename),
    ("dirname", dirname), ("realpath", realpath), ("readlink", readlink), ("pwd", pwd),
    ("printenv", printenv), ("test", test), ("[", bracket), ("whoami", tells "root"), ("id", id),
    ("nproc", tells "1"), ("arch", tells "x86_64"), ("uname", uname), ("sync", fun _ => return 0),
    ("chmod", fun _ => return 0)]

/-- The status of a program whose output was refused. -/
def Utility.refusedStatus (program : String) : Nat :=
  match program with
  | "ls" => 2
  | "grep" => 2
  | "expr" => 3
  | "sed" => 4
  | "env" => 125
  | _ => 1

/-- What a program tells whose output was refused. -/
def Utility.refusedText (program : String) (r : Refusal) : String :=
  match program with
  | "sed" => (if r = .closed then "couldn't close stdout: " else "couldn't flush stdout: ") ++ r.reason
  | "wc" => if r = .closed then "write error: " ++ r.reason else "write error"
  | _ => "write error: " ++ r.reason

/-- Carries out a step of a program, and tells if its output was refused. -/
def Utility.checked (program : String) (step : Act Nat) : Act Nat := do
  modify fun s => { s with refused := none }
  let status ← step
  match (← get).refused with
  | none => return status
  | some r =>
    fault (refusedText program r)
    return refusedStatus program

end BenchSweep.Shell
