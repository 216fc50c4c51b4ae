import BenchSweep.Shell.Condition
import BenchSweep.Shell.Utility.Basic

/-! Programs for names, for variables, for conditions and for what the host is. -/
set_option autoImplicit false

namespace BenchSweep.Shell.Utility

/-! ## Paths -/

/-- The last part of a path, slashes at its end left out. -/
def lastPart (p : String) : String :=
  match (Path.mk p).parts.getLast? with
  | some name => name
  | none => if p.startsWith "/" then "/" else p

/-- A name without an ending, unless that is all of it. -/
def withoutEnding (ending name : String) : String :=
  if ending ≠ "" && ending ≠ name && name.endsWith ending then
    String.ofList (name.toList.take (name.length - ending.length))
  else name

def basename : Utility := fun args => do
  match scanOptions [flag 'a' "multiple", valued 's' "suffix", flag 'z' "zero"] true
      (args.length + 1) args with
  | .error message => misuse 1 message
  | .ok (found, args) =>
    let o : Options := ⟨found⟩
    let several := o.has 'a' || o.has 's'
    match args with
    | [] => missingOperand
    | p :: rest =>
      if several then
        args.forM fun p => emitLine (withoutEnding ((o.value? 's').getD "") (lastPart p))
        return 0
      else
        match rest with
        | _ :: extra :: _ => extraOperand extra
        | _ =>
          emitLine (withoutEnding (rest.headD "") (lastPart p))
          return 0

/-- The path of the directory that holds what a path leads to. -/
def parentText (p : String) : String :=
  let slashless (cs : List Char) : List Char := (cs.reverse.dropWhile (· == '/')).reverse
  let front := slashless p.toList
  let directory := slashless ((front.reverse.dropWhile (· ≠ '/')).reverse)
  if !directory.isEmpty then String.ofList directory
  else if p.startsWith "/" then "/" else "."

def dirname : Utility := fun args =>
  withOptions 1 [flag 'z' "zero"] args fun _ args => do
    if args.isEmpty then missingOperand
    else
      args.forM fun p => emitLine (parentText p)
      return 0

/-- The working directory as a path. -/
def workplace : Act String := return (Path.ofNames (← Act.files).here).text

def pwd : Utility := fun args =>
  withOptions 1 [flag 'L' "logical", flag 'P' "physical"] args fun _ args => do
    if !args.isEmpty then fault "ignoring non-option arguments"
    emitLine (← workplace)
    return 0

/-- The rooted paths of files. -/
def realpath : Utility := fun args =>
  withOptions 1 [flag 'f' "canonicalize", flag 'e' "canonicalize-existing",
      flag 'm' "canonicalize-missing", flag 'q' "quiet", flag 's' "strip"] args fun o args => do
    if args.isEmpty then missingOperand
    else
      args.foldlM (fun status p => do
        let fs ← Act.files
        let found : Except HostFault Location := do
          let place ← fs.locate ⟨p⟩
          if o.has 'e' && (fs.node? place).isNone then throw .notFound
          return place
        match found with
        | .ok place =>
          emitLine (Path.ofNames place).text
          return status
        | .error e =>
          fault s!"{Quotation.asNeeded p}: {reason e}"
          return 1) 0

/-- The places of files with the option that asks for them. Otherwise the files that links name, and no
file is a link. -/
def readlink : Utility := fun args =>
  withOptions 1 [flag 'f' "canonicalize", flag 'e' "canonicalize-existing",
      flag 'm' "canonicalize-missing", flag 'n' "no-newline", flag 'q' "quiet", flag 's' "silent",
      flag 'v' "verbose", flag 'z' "zero"] args fun o args => do
    if args.isEmpty then missingOperand
    else
      args.foldlM (fun status p => do
        let fs ← Act.files
        let found : Except String Location := do
          let place ← (fs.locate ⟨p⟩).mapError reason
          if !(o.has 'f' || o.has 'm') && (fs.node? place).isNone then throw (reason .notFound)
          if !(['f', 'e', 'm'].any o.has) then throw "Invalid argument"
          return place
        match found with
        | .ok place =>
          emitLine (Path.ofNames place).text
          return status
        | .error why =>
          if o.has 'v' then fault s!"{Quotation.asNeeded p}: {why}"
          return 1) 0

/-! ## Variables -/

/-- The variables that programs see. -/
def environment : Act (List String) := do
  let s ← get
  return s.exported.reverse.filterMap fun name =>
    (s.values.get? name).map fun v => name ++ "=" ++ v

def printenv : Utility := fun args => do
  match scanOptions [flag '0' "null"] true (args.length + 1) args with
  | .error message => misuse 2 message
  | .ok (_, []) =>
    (← environment).forM emitLine
    return 0
  | .ok (_, names) =>
    let s ← get
    names.foldlM (fun status name => do
      match if s.exported.contains name then s.values.get? name else none with
      | some v =>
        emitLine v
        return status
      | none => return 1) 0

/-! ## Conditions -/

/-- The value of a condition that has up to three arguments. -/
def shortCondition (fs : Files) : List String → Except String Bool
  | [] => .ok false
  | [a] => .ok (a ≠ "")
  | [o, a] =>
    if o = "!" then .ok (a = "")
    else
      match o.toList with
      | ['-', c] =>
        if Condition.unaryLetters.contains c then
          match Condition.unary fs c a with
          | .ok b => .ok b
          | .error _ => .error s!"invalid integer {Quotation.quoted a}"
        else .error s!"{Quotation.quoted o}: unary operator expected"
      | _ => .error s!"missing argument after {Quotation.quoted a}"
  | [a, o, b] =>
    let o' := if o = "==" then "=" else o
    if Condition.isBinary o' then
      match Condition.binary fs a o' b with
      | .ok v => .ok v
      | .error _ =>
        let bad := if (Builtin.integer? a).isNone then a else b
        .error s!"invalid integer {Quotation.quoted bad}"
    else if a = "!" then (shortCondition fs [o, b]).map (!·)
    else if a = "(" && b = ")" then .ok (o ≠ "")
    else if o = "-a" then .ok (a ≠ "" && b ≠ "")
    else if o = "-o" then .ok (a ≠ "" || b ≠ "")
    else .error s!"{Quotation.quoted o}: binary operator expected"
  | args => .error ("extra argument " ++ Quotation.quoted (args.getLastD ""))

/-- The status of a condition. -/
def test : Utility := fun args => do
  let fs ← Act.files
  let value := if args.length ≤ 3 then shortCondition fs args
    else
      match Condition.holds fs false args with
      | .ok b => .ok b
      | .error _ => .error ("extra argument " ++ Quotation.quoted (args.getLastD ""))
  match value with
  | .ok b => return if b then 0 else 1
  | .error message =>
    fault message
    return 2

/-- A condition between brackets. -/
def bracket : Utility := fun args => do
  if args.getLast? = some "]" then test args.dropLast
  else
    fault "missing ']'"
    return 2

/-! ## The host -/

/-- A program that tells one thing. -/
def tells (text : String) : Utility := fun args =>
  withOptions 1 [] args fun _ args => do
    match args with
    | extra :: _ => extraOperand extra
    | [] =>
      emitLine text
      return 0

def id : Utility := fun args =>
  withOptions 1 [flag 'u' "user", flag 'g' "group", flag 'G' "groups", flag 'n' "name",
      flag 'r' "real"] args fun o _ => do
    if o.has 'u' || o.has 'g' || o.has 'G' then emitLine (if o.has 'n' then "root" else "0")
    else emitLine "uid=0(root) gid=0(root) groups=0(root)"
    return 0

def uname : Utility := fun args =>
  withOptions 1 [flag 's' "kernel-name", flag 'm' "machine", flag 'o' "operating-system",
      flag 'p' "processor"] args fun o _ => do
    let parts := [('s', "Linux"), ('m', "x86_64"), ('p', "unknown"), ('o', "GNU/Linux")]
    let chosen := (parts.filter fun (c, _) => o.has c).map Prod.snd
    emitLine (if chosen.isEmpty then "Linux" else " ".intercalate chosen)
    return 0

end BenchSweep.Shell.Utility
