import BenchSweep.Shell.Device
import BenchSweep.Shell.Expansion

/-! Redirections: they are carried out in order, and one that fails stops those behind it. -/
set_option autoImplicit false

namespace BenchSweep.Shell

namespace Redirection

/-- The descriptor that a redirection is about. -/
def descriptor : Redirection → Nat
  | .mk n _ _ => n

/-- Why a file cannot be opened; `absent` is told where a name leads nowhere. -/
def reason (absent : String) : HostFault → String
  | .notFound => absent
  | .notADirectory => absent
  | .permissionDenied => "Permission denied"
  | .alreadyExists => "File exists"
  | .isADirectory => "Is a directory"
  | .nameTooLong => "File name too long"
  | fault => fault.message

/-- Why a file cannot be read from. -/
def unopened (target why : String) : Except String Channel := .error s!"cannot open {target}: {why}"

/-- Why a file cannot be written to. -/
def uncreated (target why : String) : Except String Channel :=
  .error s!"cannot create {target}: {why}"

/-- Opens a file to read from. -/
def source (target : String) : Act (Except String Channel) := do
  match (← Act.files).find ⟨target⟩ with
  | .error e => return unopened target (reason "No such file" e)
  | .ok (place, node) =>
    match device? place with
    | some d =>
      match ← d.channel? with
      | some c => return .ok c
      | none => return unopened target "No such device or address"
    | none =>
      match Files.Node.bytes node with
      | .ok bytes => return .ok (.reading (← Act.openPipe bytes))
      | .error .isADirectory => return .ok .folder
      | .error _ => return .ok (.reading (← Act.openPipe []))

/-- Opens a file to write to. -/
def sink (d : Direction) (target : String) : Act (Except String Channel) := do
  let fs ← Act.files
  let keeps := d = .write && (← get).has 'C'
  match fs.writable ⟨target⟩ with
  | .error .isADirectory =>
    let why := reason "" .isADirectory
    return if keeps then unopened target why else uncreated target why
  | .error e => return uncreated target (reason "Directory nonexistent" e)
  | .ok place =>
    match device? place with
    | some d =>
      match ← d.channel? with
      | some c => return .ok c
      | none => return uncreated target "No such device or address"
    | none =>
      let present := (fs.node? place).isSome
      if present && keeps then return uncreated target "File exists"
      if !(present && d = .append) then Act.setFiles (fs.put place (.file []))
      return .ok (.file place)

/-- Opens a file to read from and to write to. -/
def both (target : String) : Act (Except String Channel) := do
  let fs ← Act.files
  match fs.writable ⟨target⟩ with
  | .error e => return unopened target (reason "No such file" e)
  | .ok place =>
    if (device? place).isNone && (fs.node? place).isNone then Act.setFiles (fs.put place (.file []))
    source target

/-- Makes `n` the same as the descriptor that the target names, or closes it. -/
def duplicate (n : Nat) (target : String) : Act (Except String Unit) := do
  if target = "-" then
    Act.close n
    return .ok ()
  else
    match ← Act.channel? (Arithmetic.ofDigits 10 target.toList) with
    | some channel =>
      Act.setChannel n channel
      return .ok ()
    | none => return .error s!"{target}: Bad file descriptor"

/-- Puts a channel in place, unless it could not be opened. -/
def connect (n : Nat) : Except String Channel → Act (Except String Unit)
  | .ok c => do
    Act.setChannel n c
    return .ok ()
  | .error e => return .error e

/-- Carries out a redirection to a path or a descriptor. -/
def perform (n : Nat) (d : Direction) (target : String) : Act (Except String Unit) :=
  match d with
  | .read => do connect n (← source target)
  | .update => do connect n (← both target)
  | .duplicate => duplicate n target
  | _ => do connect n (← sink d target)

/-- Makes `n` lead to a document. If that cannot be expanded, which has been told then, the redirection
fails. -/
def document (run : Script → Act Flow) (n : Nat) (w : Word) : Expand Bool := do
  let expanded : Except Flow String ← (ExceptT.run (Expand.text run .document w) : Act _)
  match expanded with
  | .ok text =>
    Act.setChannel n (.pipe (← (Act.openPipe (Text.Utf8.bytes text) : Act Nat)))
    return true
  | .error .fault => return false
  | .error flow => throw flow

/-- Whether a text names a descriptor, or none by a minus. -/
def namesDescriptor (target : String) : Bool :=
  match target.toList with
  | [c] => c.isDigit || c == '-'
  | _ => false

/-- The path or the descriptor that a redirection leads to. A document has none. -/
def target (run : Script → Act Flow) (d : Direction) (w : Word) : Expand String := do
  if d = .document then return ""
  let t ← Expand.text run .text w
  if d = .duplicate && !namesDescriptor t then
    modify fun s => { s with line := s.reached }
    Expand.stop "Syntax error: Bad fd number"
  else return t

/-- Carries out redirections whose targets are known; tells of the first that fails. -/
def performEach (run : Script → Act Flow) : List (Redirection × String) → Expand Bool
  | [] => return true
  | (.mk n .document w, _) :: rest => do
    if ← document run n w then performEach run rest else return false
  | (.mk n d _, target) :: rest => do
    match ← (perform n d target : Act (Except String Unit)) with
    | .ok () => performEach run rest
    | .error message =>
      (Act.complainHere message : Act Unit)
      return false

/-- Carries out all redirections; tells of the first that fails. -/
def performAll (run : Script → Act Flow) (rs : List Redirection) : Expand Bool := do
  performEach run (← rs.mapM fun
    | .mk n d w => return (.mk n d w, ← target run d w))

end Redirection

end BenchSweep.Shell
