import BenchSweep.Shell.Builtin.Variables

/-! The commands of the shell for the directory in which it works and for what its processes may do. -/
set_option autoImplicit false

namespace BenchSweep.Shell.Builtin

/-! ## Directories -/

/-- The working directory as a path. -/
def workplace : Act String := return (Path.ofNames (← Act.files).here).text

/-- Whether a path is looked up nowhere else than from the working directory. -/
def isPlaced (target : String) : Bool :=
  target.startsWith "/" || target = "." || target = ".." || target.startsWith "./" ||
    target.startsWith "../"

/-- The directory that a path leads to, looked up from the directories in `CDPATH`, and whether it was
found by one of them. An empty path leads to the place itself. -/
def directory? (target : String) : Act (Option (Location × Bool)) := do
  let fs ← Act.files
  let look (path : Path) : Option Location := match fs.find path with
    | .ok (place, .directory) => some place
    | _ => none
  let paths := (← Act.value? "CDPATH").getD ""
  let bases := if isPlaced target || paths = "" then []
    else (Text.splitWhere (· == ':') paths.toList).map String.ofList
  let path : Path := ⟨if target = "" then "." else target⟩
  let found := bases.findSome? fun base =>
    (look ((Path.mk base).join path)).map fun place => (place, decide (base ≠ ""))
  return found.or ((look path).map fun place => (place, false))

/-- Makes a directory the one in which the shell works. -/
def enter (place : Location) : Act Unit := do
  let before ← workplace
  Act.setFiles ((← Act.files).within place)
  let here ← workplace
  Act.assign "OLDPWD" before
  Act.assign "PWD" here
  modify fun s => { s with exported := (s.exported.insert "OLDPWD").insert "PWD" }

def cd : Builtin := fun args =>
  withOptions ['L', 'P'] args fun _ args => do
    let back := args.head? = some "-"
    let given ← match args with
      | [] => Act.value? "HOME"
      | a :: _ => if back then Act.value? "OLDPWD" else pure (some a)
    let target := given.getD ""
    match ← directory? target with
    | some (place, shown) =>
      enter place
      if back || shown then Act.say ((← workplace) ++ "\n")
      Act.done 0
    | none => Act.abandon s!"can't cd to {target}"

def pwd : Builtin := fun args =>
  withOptions ['L', 'P'] args fun _ _ => do
    Act.say ((← workplace) ++ "\n")
    Act.done 0

/-! ## Permissions of new files -/

/-- A number in base eight with four digits. -/
def octalText (n : Nat) : String :=
  let ds := Nat.toDigits 8 n
  String.ofList (List.replicate (4 - ds.length) '0' ++ ds)

/-- The permissions that a mask leaves, by who has them. -/
def symbolicText (mask : Nat) : String :=
  let rights (who : Char) (shift : Nat) : String :=
    let bits := 7 - mask / Nat.pow 2 shift % 8
    let letter (c : Char) (bit : Nat) : List Char := if bits / bit % 2 = 1 then [c] else []
    String.ofList (who :: '=' :: (letter 'r' 4 ++ letter 'w' 2 ++ letter 'x' 1))
  ",".intercalate [rights 'u' 6, rights 'g' 3, rights 'o' 0]

/-- The bits of one who that permissions such as `rx` stand for. -/
def rightBits? (cs : List Char) : Option Nat :=
  cs.foldlM (fun bits c =>
    match c with
    | 'r' => some (bits ||| 4)
    | 'w' => some (bits ||| 2)
    | 'x' => some (bits ||| 1)
    | 'X' => some (bits ||| 1)
    | 's' => some bits
    | 't' => some bits
    | _ => none) 0

/-- Changes permissions as clauses such as `u=rwx` say; nothing if they are none. -/
def clause (rights : Nat) (cs : List Char) : Option Nat :=
  let whos := cs.takeWhile fun c => c == 'u' || c == 'g' || c == 'o' || c == 'a'
  let places : List Nat :=
    if whos.isEmpty || whos.contains 'a' then [6, 3, 0]
    else whos.filterMap fun c => [('u', 6), ('g', 3), ('o', 0)].lookup c
  match cs.drop whos.length with
  | sign :: letters =>
    match if ['=', '+', '-'].contains sign then rightBits? letters else none with
    | none => none
    | some bits =>
      some (places.foldl (fun all place =>
        let field := bits * Nat.pow 2 place
        match sign with
        | '+' => all ||| field
        | '-' => all &&& (511 - field)
        | _ => (all &&& (511 - 7 * Nat.pow 2 place)) ||| field) rights)
  | [] => none

def umask : Builtin := fun args =>
  withOptions ['S'] args fun flags args => do
    let mask := (← get).mask
    match args with
    | [] =>
      Act.say ((if flags.isEmpty then octalText mask else symbolicText mask) ++ "\n")
      Act.done 0
    | mode :: _ =>
      let set (mask : Nat) : Act Flow := do
        modify fun s => { s with mask := mask % 512 }
        Act.done 0
      if (mode.toList.head?.map Char.isDigit).getD false then
        if mode.toList.all (Arithmetic.isDigitIn 8) then set (Arithmetic.ofDigits 8 mode.toList)
        else Act.abandon s!"Illegal number: {mode}"
      else
        match (Text.splitWhere (· == ',') mode.toList).foldlM clause (511 - mask) with
        | some rights => set (511 - rights)
        | none => Act.abandon s!"Illegal mode: {mode}"

/-! ## Limits -/

/-- What the processes of the host are limited to, by letter, each with its name and its bound. -/
def limits : List (Char × String × String) :=
  [('t', "time(seconds)", "unlimited"), ('f', "file(blocks)", "unlimited"),
    ('d', "data(kbytes)", "unlimited"), ('s', "stack(kbytes)", "8192"),
    ('c', "coredump(blocks)", "0"), ('m', "memory(kbytes)", "unlimited"),
    ('l', "locked memory(kbytes)", "8192"), ('p', "process", "unlimited"),
    ('n', "nofiles", "1048576"), ('v', "vmemory(kbytes)", "unlimited"),
    ('w', "locks", "unlimited"), ('r', "rtprio", "0")]

def ulimit : Builtin := fun args =>
  withOptions ('H' :: 'S' :: 'a' :: limits.map (·.1)) args fun flags args => do
    match args with
    | _ :: _ :: _ => Act.abandon "too many arguments"
    | [value] =>
      if value = "unlimited" || (!value.isEmpty && value.toList.all Char.isDigit) then Act.done 0
      else Act.abandon "bad number"
    | [] =>
      if flags.contains 'a' then
        limits.forM fun (_, name, value) => do
          let room := String.ofList (List.replicate (20 - name.length) ' ')
          Act.say s!"{name}{room} {value}\n"
      else
        let letter := (flags.filter fun c => c ≠ 'H' && c ≠ 'S').getLast?.getD 'f'
        let value := ((limits.lookup letter).map Prod.snd).getD "unlimited"
        Act.say (value ++ "\n")
      Act.done 0

end BenchSweep.Shell.Builtin
