import BenchSweep.Shell.Utility.Names

/-! Programs that list and change the tree of files. -/
set_option autoImplicit false

namespace BenchSweep.Shell.Utility

/-! ## Lists -/

/-- The mark behind a name that tells what it is. -/
def nodeMark (o : Options) : Node → String
  | .directory => if o.has 'F' || o.has 'p' then "/" else ""
  | .program _ => if o.has 'F' then "*" else ""
  | .file _ => ""

/-- Names on lines of their own, or beside each other. -/
def listNames (o : Options) (names : List String) : Act Unit :=
  match o.last? ['1', 'C', 'x', 'm', 'l'] with
  | some 'm' => if names.isEmpty then pure () else emitLine (", ".intercalate names)
  | some 'C' => if names.isEmpty then pure () else emitLine ("  ".intercalate names)
  | some 'x' => if names.isEmpty then pure () else emitLine ("  ".intercalate names)
  | _ => names.forM emitLine

/-- The names in a directory as they are shown. -/
def directoryNames (o : Options) (fs : Files) (place : Location) : List String :=
  let names := (fs.below place).filterMap fun
    | ([name], node) => some (name, node)
    | _ => none
  let shown := names.filter fun (name, _) => o.has 'a' || o.has 'A' || !name.startsWith "."
  let dots := if o.has 'a' then [(".", Node.directory), ("..", Node.directory)] else []
  let all := (dots ++ shown).map fun (name, node) => name ++ nodeMark o node
  if o.has 'r' then all.reverse else all

/-- Directories to list, each with those in it if they are wanted, too. -/
def directoriesFrom (o : Options) (fs : Files) (path : String) (place : Location) :
    List (String × Location) :=
  if !o.has 'R' then [(path, place)]
  else
    let below := (fs.below place).filter fun (names, node) =>
      node = .directory && (o.has 'a' || o.has 'A' || names.all fun n => !n.startsWith ".")
    (path, place) :: below.map fun (names, _) => ((names.foldl Path.child ⟨path⟩).text, place ++ names)

def ls : Utility := fun args =>
  withOptions 2 [flag 'a' "all", flag 'A' "almost-all", flag 'd' "directory", flag 'F' "classify",
      flag 'p' "", flag 'R' "recursive", flag 'r' "reverse", flag '1' "", flag 'C' "", flag 'x' "",
      flag 'm' "", flag 'l' "", flag 'h' "human-readable", flag 't' "", flag 'S' "", flag 'i' "inode",
      flag 's' "size", flag 'n' "numeric-uid-gid", flag 'o' "", flag 'g' "", flag 'q' "", flag 'b' "",
      flag 'N' "literal", flag 'Q' "quote-name", flag 'U' "", flag 'v' "", flag 'X' "", flag 'u' "",
      flag 'c' "", flag 'f' "", flag 'k' "kibibytes", flag 'L' "dereference", flag 'H' "", flag 'B' "",
      flag 'G' "no-group", ⟨'?', "color", .optional⟩] args fun o paths => do
    let fs ← Act.files
    let paths := if paths.isEmpty then ["."] else paths
    let found := paths.map fun p => (p, fs.find ⟨p⟩)
    found.forM fun
      | (p, .error e) => fault s!"cannot access {Quotation.shellQuoted p}: {reason e}"
      | _ => pure ()
    let inOrder (ps : List String) : List String :=
      let sorted := ps.mergeSort fun a b => decide (a ≤ b)
      if o.has 'r' then sorted.reverse else sorted
    let isListed (p : String) : Bool := !o.has 'd' && fs.isDirectory ⟨p⟩
    let known := paths.filter fun p => fs.has ⟨p⟩
    let plain := inOrder (known.filter (!isListed ·))
    listNames o (plain.map fun p =>
      p ++ match fs.look ⟨p⟩ with
        | .ok node => nodeMark o node
        | .error _ => "")
    let directories := (inOrder (known.filter isListed)).flatMap fun p =>
      match fs.locate ⟨p⟩ with
      | .ok place => directoriesFrom o fs p place
      | .error _ => []
    directories.zipIdx.forM fun ((p, place), i) => do
      if 1 < paths.length || o.has 'R' then
        emitLine ((if i = 0 && plain.isEmpty then "" else "\n") ++ p ++ ":")
      listNames o (directoryNames o fs place)
    return if known.length < paths.length then 2 else 0

/-! ## Changes -/

def touch : Utility := fun args =>
  withOptions 1 [flag 'a' "", flag 'm' "", flag 'c' "no-create", valued 'd' "date", valued 't' "",
      valued 'r' "reference", flag 'f' "", flag 'h' "no-dereference"] args fun o paths => do
    if paths.isEmpty then misuse 1 "missing file operand"
    else
      paths.foldlM (fun status p => do
        let fs ← Act.files
        match fs.find ⟨p⟩ with
        | .ok _ => return status
        | .error e =>
          if o.has 'c' && e = .notFound then return status
          match if p.endsWith "/" then .error e else fs.write ⟨p⟩ [] with
          | .ok fs =>
            Act.setFiles fs
            return status
          | .error e =>
            fault s!"cannot touch {Quotation.shellQuoted p}: {reason e}"
            return 1) 0

def mkdir : Utility := fun args =>
  withOptions 1 [flag 'p' "parents", flag 'v' "verbose", valued 'm' "mode"] args fun o paths => do
    if paths.isEmpty then missingOperand
    else
      paths.foldlM (fun status p => do
        let fs ← Act.files
        let result : Files × Option HostFault :=
          if o.has 'p' then
            if p = "" then (fs, some .notFound) else fs.makeDirectories ⟨p⟩
          else match fs.locate ⟨p⟩ with
            | .error e => (fs, some e)
            | .ok place =>
              if (fs.node? place).isSome then (fs, some .alreadyExists)
              else (fs.put place .directory, none)
        Act.setFiles result.1
        match result.2 with
        | none =>
          if o.has 'v' then emitLine s!"{← name}: created directory {Quotation.shellQuoted p}"
          return status
        | some e =>
          fault s!"cannot create directory {Quotation.shellQuoted p}: {reason e}"
          return 1) 0

def rm : Utility := fun args =>
  withOptions 1 [flag 'f' "force", flag 'r' "recursive", flag 'R' "", flag 'd' "dir",
      flag 'v' "verbose", flag 'i' "", flag 'I' ""] args fun o paths => do
    if paths.isEmpty && !o.has 'f' then missingOperand
    else
      paths.foldlM (fun status p => do
        let fs ← Act.files
        let shown := Quotation.shellQuoted p
        let refused (why : String) : Act Nat := do
          fault s!"cannot remove {shown}: {why}"
          return 1
        match fs.find ⟨p⟩ with
        | .error e =>
          if o.has 'f' && (e = .notFound || e = .notADirectory) then return status
          refused (reason e)
        | .ok (place, node) =>
          let last := lastPart p
          if node = .directory && (last = "." || last = "..") && (o.has 'r' || o.has 'R') then
            fault s!"refusing to remove '.' or '..' directory: skipping {shown}"
            return 1
          if node = .directory && !(o.has 'r' || o.has 'R') then
            if !o.has 'd' then return ← refused "Is a directory"
            if !(fs.below place).isEmpty then return ← refused "Directory not empty"
          Act.setFiles (fs.remove place)
          if o.has 'v' then
            emitLine (if node = .directory then s!"removed directory {shown}" else s!"removed {shown}")
          return status) 0

def rmdir : Utility := fun args =>
  withOptions 1 [flag 'p' "parents", flag 'v' "verbose", flag 'I' "ignore-fail-on-non-empty"] args
      fun o paths => do
    if paths.isEmpty then missingOperand
    else
      let steps (p : String) : List String :=
        if o.has 'p' then
          let names := (Text.splitWhere (· == '/') p.toList).filter (!·.isEmpty)
          (List.range names.length).map fun i =>
            String.ofList (['/'].intercalate (names.take (names.length - i)))
        else [p]
      (paths.flatMap steps).foldlM (fun status p => do
        let fs ← Act.files
        let refused (why : String) : Act Nat := do
          fault s!"failed to remove {Quotation.shellQuoted p}: {why}"
          return 1
        match fs.find ⟨p⟩ with
        | .ok (place, .directory) =>
          if (fs.below place).isEmpty then
            Act.setFiles (fs.remove place)
            return status
          else refused "Directory not empty"
        | .ok _ => refused "Not a directory"
        | .error e => refused (reason e)) 0

/-- The files `fs` with a node and what stands below it put at `target`. -/
def planted (fs : Files) (target : Location) (node : Node) (below : List (List String × Node)) :
    Files :=
  below.foldl (fun fs (names, n) => fs.put (target ++ names) n) (fs.put target node)

/-- What stands at the target of a copy or a move already. -/
inductive Taken where
  | free
  | same
  | directory
  | file

/-- Copies or moves one node to a path. -/
def transferOne (move : Bool) (o : Options) (p target : String) (into : Bool) : Act Nat := do
  let fs ← Act.files
  let deep := move || o.has 'r' || o.has 'R' || o.has 'a'
  let failed (text : String) : Act Nat := do
    fault text
    return 1
  match fs.find ⟨p⟩ with
  | .error e => failed s!"cannot stat {Quotation.shellQuoted p}: {reason e}"
  | .ok (place, node) =>
    if node = .directory && !deep then
      failed s!"-r not specified; omitting directory {Quotation.shellQuoted p}"
    else
      let final := if into then (Path.child ⟨target⟩ (lastPart p)).text else target
      match fs.locate ⟨final⟩ with
      | .error e =>
        let shown := Quotation.shellQuoted final
        if move then failed s!"cannot move {Quotation.shellQuoted p} to {shown}: {reason e}"
        else if node = .directory then failed s!"cannot create directory {shown}: {reason e}"
        else failed s!"cannot create regular file {shown}: {reason e}"
      | .ok there =>
        let (a, b) := (Quotation.shellQuoted p, Quotation.shellQuoted final)
        if there = place then failed s!"{a} and {b} are the same file"
        else if node = .directory && place.isPrefixOf there then
          failed (if move then s!"cannot move {a} to a subdirectory of itself, {b}"
            else s!"cannot copy a directory, {a}, into itself, {b}")
        else
          match fs.node? there, node with
          | some .directory, .file _ => failed s!"cannot overwrite directory {b} with non-directory"
          | some (.file _), .directory =>
            failed s!"cannot overwrite non-directory {b} with directory {a}"
          | present, _ =>
            if present.isSome && o.has 'n' then return 0
            let cleared := if move then fs.remove place else fs
            Act.setFiles (planted cleared there node (fs.below place))
            if o.has 'v' then
              emitLine (if move then s!"renamed {a} -> {b}" else s!"{a} -> {b}")
            return 0

/-- Copies or moves nodes; the last argument says where to. -/
def transfer (move : Bool) : Utility := fun args =>
  withOptions 1 [flag 'r' "recursive", flag 'R' "", flag 'a' "archive", flag 'f' "force",
      flag 'i' "interactive", flag 'n' "no-clobber", flag 'v' "verbose", flag 'p' "", flag 'u' "update",
      flag 'T' "no-target-directory", valued 't' "target-directory", flag 'd' "", flag 'L' "",
      flag 'P' ""] args fun o paths => do
    let (sources, target) := match o.value? 't' with
      | some t => (paths, some t)
      | none => (paths.dropLast, if paths.length < 2 then none else paths.getLast?)
    match target, paths with
    | _, [] => misuse 1 "missing file operand"
    | none, p :: _ => misuse 1 s!"missing destination file operand after {Quotation.shellQuoted p}"
    | some target, _ =>
      let fs ← Act.files
      let into := fs.isDirectory ⟨target⟩ && !o.has 'T'
      if 1 < sources.length && !into then
        let why := match fs.look ⟨target⟩ with
          | .ok _ => "Not a directory"
          | .error e => reason e
        fault s!"target {Quotation.shellQuoted target}: {why}"
        return 1
      else
        sources.foldlM (fun status p => do
          return max status (← transferOne move o p target into)) 0

def cp : Utility := transfer false

def mv : Utility := transfer true

end BenchSweep.Shell.Utility
