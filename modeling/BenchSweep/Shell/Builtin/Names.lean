import BenchSweep.Shell.Builtin.Basic
import BenchSweep.Shell.Search

/-! What the names of commands stand for. -/
set_option autoImplicit false

namespace BenchSweep.Shell.Builtin

/-- The commands of the shell that are not special. -/
def ordinary : List String :=
  ["[", "alias", "bg", "cd", "chdir", "command", "echo", "false", "fg", "getopts", "hash", "jobs", "kill",
    "printf", "pwd", "read", "test", "true", "type", "ulimit", "umask", "unalias", "wait"]

def isSpecial (name : String) : Bool := Parser.specialCommands.contains name

/-- The directories in which programs are searched. -/
def places : Act String := return (← Act.value? "PATH").getD ""

/-- The place of a name in a table of this size, by which names are listed. -/
def slot (size : Nat) (name : String) : Nat :=
  let codes := (Text.Utf8.bytes name).map UInt8.toNat
  codes.foldl (· + ·) (codes.headD 0 * 16) % size

/-- Names in the order in which a table of this size lists them. -/
def listed {α : Type} (size : Nat) (name : α → String) (as : List α) : List α :=
  as.mergeSort fun a b => decide (slot size (name a) ≤ slot size (name b))

/-! ## Aliases -/

def showAlias (name text : String) : Act Unit := Act.say s!"{name}={quoted text}\n"

def alias_ : Builtin
  | [] => do
    (listed 39 Prod.fst (← get).aliases).forM fun (name, text) => showAlias name text
    Act.done 0
  | args => do
    let status ← args.foldlM (fun status arg => do
      match arg.toList with
      | [] => pure status
      | c :: cs =>
        match Text.splitOnce '=' cs with
        | some (name, text) =>
          let name := String.ofList (c :: name)
          let text := String.ofList text
          modify fun s => { s with
            aliases := if s.aliases.any (·.1 = name) then
                s.aliases.map fun a => if a.1 = name then (name, text) else a
              else s.aliases ++ [(name, text)] }
          return status
        | none =>
          match (← get).aliases.lookup arg with
          | some text =>
            showAlias arg text
            return status
          | none =>
            Act.complain s!"alias: {arg} not found"
            return 1) 0
    Act.done status

def unalias : Builtin := fun args =>
  withOptions ['a'] args fun flags args => do
    if !flags.isEmpty then
      modify fun s => { s with aliases := [] }
      Act.done 0
    else
      let status ← args.foldlM (fun status name => do
        let s ← get
        if s.aliases.any (·.1 = name) then
          set { s with aliases := s.aliases.filter (·.1 ≠ name) }
          return status
        else
          Act.complain s!"unalias: {name} not found"
          return 1) 0
      Act.done status

/-! ## Programs -/

/-- Remembers that a program was found by its name. -/
def remember (name : String) : Act Unit := modify fun s =>
  { s with hashed := if s.hashed.contains name then s.hashed else s.hashed ++ [name] }

/-- The path of the program that a name stands for, which is remembered. -/
def program? (name : String) : Act (Option String) := do
  match findProgram (← Act.files) (← places) name with
  | .ok (p, _) =>
    remember name
    return some p.text
  | .error _ => return none

def isCommand (name : String) : Bool := isSpecial name || ordinary.contains name

def hash : Builtin := fun args =>
  withOptions ['r'] args fun flags args => do
    if !flags.isEmpty then
      modify fun s => { s with hashed := [] }
      Act.done 0
    else if args.isEmpty then
      (listed 31 id (← get).hashed).forM fun name => do
        if let some path ← program? name then Act.say (path ++ "\n")
      Act.done 0
    else
      let status ← args.foldlM (fun status name => do
        let functions := (← get).functions
        if isCommand name || functions.any (·.1 = name) then return status
        else if name.toList.contains '/' then return status
        else
          match ← program? name with
          | some _ => return status
          | none =>
            Act.complainHere s!"{name}: not found"
            return 1) 0
      Act.done status

/-! ## Descriptions -/

/-- Says what a name stands for, in words or as it can be written; tells the status. -/
def describe (long : Bool) (name : String) : Act Nat := do
  let s ← get
  let tell (text : String) : Act Nat := do
    Act.say ((if long then name ++ text else name) ++ "\n")
    return 0
  if Token.reservedWords.contains name then tell " is a shell keyword"
  else
    match s.aliases.lookup name with
    | some text =>
      if long then tell s!" is an alias for {text}"
      else
        Act.say "alias "
        showAlias name text
        return 0
    | none =>
      if s.functions.any (·.1 = name) then tell " is a shell function"
      else if isSpecial name then tell " is a special shell builtin"
      else if ordinary.contains name then tell " is a shell builtin"
      else
        let tracked := s.hashed.contains name
        let path ← if name.toList.contains '/' then
            pure (if s.machine.files.has ⟨name⟩ then some name else none)
          else program? name
        match path with
        | some path =>
          let how := if tracked then " a tracked alias for" else ""
          Act.say (if long then s!"{name} is{how} {path}\n" else path ++ "\n")
          return 0
        | none =>
          if long then Act.say s!"{name}: not found\n"
          return 127

def type_ : Builtin := fun args =>
  withOptions [] args fun _ names => do
    let status ← names.foldlM (fun status name => return status ||| (← describe true name)) 0
    Act.done status

/-- The command that describes another one, or does nothing. -/
def command : Builtin := fun args =>
  withOptions ['p', 'v', 'V'] args fun flags args => do
    match args with
    | name :: _ =>
      if flags.contains 'V' then Act.done (← describe true name)
      else if flags.contains 'v' then Act.done (← describe false name)
      else Act.done 0
    | [] => Act.done 0

end BenchSweep.Shell.Builtin
