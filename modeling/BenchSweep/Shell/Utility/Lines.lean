import BenchSweep.Shell.Utility.Numbers

/-! Programs that show parts of files or count what they hold. -/
set_option autoImplicit false

namespace BenchSweep.Shell.Utility

/-! ## Starts and ends -/

/-- What letters behind a number multiply it by. -/
def multiplier? (cs : List Char) : Option Nat :=
  let power (base : Nat) (c : Char) : Option Nat :=
    (['K', 'M', 'G', 'T', 'P', 'E', 'Z', 'Y'].idxOf? c.toUpper).map fun i => Nat.pow base (i + 1)
  match cs with
  | [] => some 1
  | ['b'] => some 512
  | [c] => if c == 'k' || c.isUpper then power 1024 c else none
  | [c, 'B'] => power 1000 c
  | [c, 'i', 'B'] => power 1024 c
  | _ => none

/-- A count with letters behind it. -/
def amount? (cs : List Char) : Option Nat :=
  let ds := cs.takeWhile Char.isDigit
  if ds.isEmpty then none
  else (multiplier? (cs.drop ds.length)).map (Arithmetic.ofDigits 10 ds * ·)

/-- How much of a file is shown. -/
structure Extent where
  bytes : Bool
  amount : Nat
  /-- Whether the count is that of what is left out. -/
  others : Bool

/-- What is wrong with a count. -/
def invalidCount (bytes : Bool) (text : String) : String :=
  let unit := if bytes then "bytes" else "lines"
  s!"invalid number of {unit}: {Quotation.quoted text}"

/-- The part of a file that a count stands for; `mark` before it turns it round. -/
def extent? (mark other : Char) (bytes : Bool) (text : String) : Except String Extent :=
  let (others, cs) := match text.toList with
    | c :: cs => if c == mark then (true, cs) else if c == other then (false, cs) else (false, c :: cs)
    | [] => (false, [])
  match amount? cs with
  | some n => .ok ⟨bytes, n, others⟩
  | none => .error (invalidCount bytes (if others && mark = '-' then String.ofList cs else text))

/-- The extent that the options say. -/
def extentOf (mark other : Char) (o : Options) : Except String Extent :=
  match o.found.reverse.find? fun (c, _) => c = 'n' || c = 'c' with
  | some ('c', v) => extent? mark other true (v.getD "")
  | some (_, v) => extent? mark other false (v.getD "")
  | none => .ok ⟨false, 10, false⟩

/-- The start of bytes, and what is left. -/
def Extent.start (e : Extent) (bytes : List UInt8) : List UInt8 × List UInt8 :=
  let cut (k : Nat) : List UInt8 × List UInt8 := (bytes.take k, bytes.drop k)
  if e.bytes then cut (if e.others then bytes.length - e.amount else e.amount)
  else
    let ls := wholeLines bytes
    cut (ls.take (if e.others then ls.length - e.amount else e.amount)).flatten.length

/-- The end of bytes. -/
def Extent.ending (e : Extent) (bytes : List UInt8) : List UInt8 :=
  if e.bytes then bytes.drop (if e.others then e.amount - 1 else bytes.length - e.amount)
  else
    let ls := wholeLines bytes
    (ls.drop (if e.others then e.amount - 1 else ls.length - e.amount)).flatten

/-- A count behind a dash or a plus as the first argument. -/
def oldCount (signs : List Char) : List String → List String
  | arg :: rest =>
    match arg.toList with
    | sign :: d :: ds =>
      let digits := (d :: ds).takeWhile Char.isDigit
      let unit := (d :: ds).drop digits.length
      let shown := if sign == '+' then sign :: digits else digits
      if !signs.contains sign || digits.isEmpty then arg :: rest
      else if unit.isEmpty then "-n" :: String.ofList shown :: rest
      else if unit = ['c'] then "-c" :: String.ofList shown :: rest
      else arg :: rest
    | _ => arg :: rest
  | [] => []

/-- Shows parts of files under their names, if there are several. -/
def headed (o : Options) (unusable : String → Trouble → Act Nat) (paths : List String)
    (f : String → List UInt8 → Act Unit) : Act Nat := do
  let paths := if paths.isEmpty then ["-"] else paths
  let named := match o.last? ['q', 'v'] with
    | some 'v' => true
    | some _ => false
    | none => 1 < paths.length
  let heading (path : String) (first : Bool) : Act Unit := do
    if named then Act.say ((if first then "" else "\n") ++ s!"==> {inputName path} <==\n")
  let (status, _) ← paths.foldlM (fun (status, first) path => do
    match ← contentOf path with
    | .ok bytes =>
      heading path first
      f path bytes
      return (status, false)
    | .error t =>
      if t.opened then heading path first
      return (max status (← unusable path t), first && !t.opened)) (0, true)
  return status

def head : Utility := fun args =>
  withOptions 1 [valued 'n' "lines", valued 'c' "bytes", flag 'q' "quiet", flag 'q' "silent",
      flag 'v' "verbose", flag 'z' "zero-terminated"] (oldCount ['-'] args) fun o paths => do
    match extentOf '-' '+' o with
    | .error message =>
      fault message
      return 1
    | .ok e =>
      headed o unopened paths fun path bytes => do
        let (shown, left) := e.start bytes
        Act.emit shown
        -- What was read too far of a file is read again by the next program.
        match path, ← Act.channel? 0 with
        | "-", some (.reading _) => Act.unread left
        | _, _ => pure ()

/-- Tells that `tail` cannot use a file. -/
def unusableEnd (path : String) (t : Trouble) : Act Nat := do
  if path = "-" && !t.opened then
    fault s!"cannot fstat 'standard input': {t.reason}"
    fault s!"-: {t.reason}"
    return 1
  else unopened path t

def tail : Utility := fun args =>
  withOptions 1 [valued 'n' "lines", valued 'c' "bytes", flag 'q' "quiet", flag 'q' "silent",
      flag 'v' "verbose", flag 'f' "follow", flag 'z' "zero-terminated"] (oldCount ['-', '+'] args)
      fun o paths => do
    match extentOf '+' '-' o with
    | .error message =>
      fault message
      return 1
    | .ok e => headed o unusableEnd paths fun _ bytes => Act.emit (e.ending bytes)

/-! ## Counts -/

/-- What is counted in bytes. -/
structure Counts where
  lines : Nat
  words : Nat
  bytes : Nat
  longest : Nat

namespace Counts

/-- Where a count is: the counts so far, whether a word goes on and how wide the line is. -/
structure State where
  counts : Counts
  inWord : Bool
  width : Nat

def step (s : State) (b : UInt8) : State :=
  let c := { s.counts with bytes := s.counts.bytes + 1 }
  let ended (width : Nat) : State :=
    ⟨{ c with longest := max c.longest s.width }, false, width⟩
  if b = 10 then
    let e := ended 0
    { e with counts := { e.counts with lines := c.lines + 1 } }
  else if b = 13 || b = 12 then ended 0
  else if b = 9 then { s with counts := c, inWord := false, width := s.width + 8 - s.width % 8 }
  else if b = 32 then { s with counts := c, inWord := false, width := s.width + 1 }
  else if b = 11 then { s with counts := c, inWord := false }
  else if Quotation.isPrintable b then
    ⟨{ c with words := if s.inWord then c.words else c.words + 1 }, true, s.width + 1⟩
  else { s with counts := c }

def of (bytes : List UInt8) : Counts :=
  let s := bytes.foldl step ⟨⟨0, 0, 0, 0⟩, false, 0⟩
  { s.counts with longest := max s.counts.longest s.width }

def add (a b : Counts) : Counts :=
  ⟨a.lines + b.lines, a.words + b.words, a.bytes + b.bytes, max a.longest b.longest⟩

end Counts

/-- How wide the counts are shown: as wide as the sizes of all files need, and wider if one has no
size. -/
def countWidth (chosen : Nat) (paths : List String) : Act Nat := do
  if paths.length = 1 && chosen = 1 then return 1
  let sizes ← paths.mapM fun path => do
    if path = "-" then
      match ← Act.channel? 0 with
      | none => pure (none : Option (Bool × Nat))
      | some (.reading index) =>
        let pieces := (← get).machine.pipes.getD index []
        pure (some (true, pieces.foldl (fun n piece => n + piece.bytes.length) 0))
      | some _ => pure (some (false, 0))
    else
      match (← Act.files).find ⟨path⟩ with
      | .ok (place, .file content) => pure (some ((device? place).isNone, content.length))
      | .ok _ => pure (some (false, 0))
      | .error _ => pure none
  match sizes with
  | none :: _ => return 1
  | _ =>
    let known := sizes.filterMap fun size => size
    let total := known.foldl (fun n size => n + size.2) 0
    return max (Decimal.digits total).length (if known.any (!·.1) then 7 else 1)

def wc : Utility := fun args =>
  withOptions 1 [flag 'c' "bytes", flag 'm' "chars", flag 'l' "lines", flag 'L' "max-line-length",
      flag 'w' "words"] args fun o paths => do
    let named := !paths.isEmpty
    let paths := if paths.isEmpty then ["-"] else paths
    let chosen := (['l', 'w', 'm', 'c', 'L'].filter o.has)
    let chosen := if chosen.isEmpty then ['l', 'w', 'c'] else chosen
    let width ← countWidth chosen.length paths
    let tell (c : Counts) (label : Option String) : Act Unit := do
      let numbers := chosen.map fun letter =>
        let n := match letter with
          | 'l' => c.lines
          | 'w' => c.words
          | 'L' => c.longest
          | _ => c.bytes
        let ds := Decimal.digits n
        String.ofList (List.replicate (width - ds.length) ' ' ++ ds)
      let behind := match label with
        | some l => " " ++ l
        | none => ""
      emitLine (" ".intercalate numbers ++ behind)
    let (status, total) ← paths.foldlM (fun (status, total) path => do
      let label := if named then some path else none
      match ← contentOf path with
      | .ok bytes =>
        let c := Counts.of bytes
        tell c label
        return (status, total.add c)
      | .error t =>
        let source := if path = "-" then "'standard input'" else Quotation.asNeeded path
        fault s!"{source}: {t.reason}"
        if t.opened || path = "-" then tell ⟨0, 0, 0, 0⟩ label
        return (1, total)) ((0, ⟨0, 0, 0, 0⟩) : Nat × Counts)
    if 1 < paths.length then tell total (some "total")
    leavingInput paths "-"
    return status

/-! ## Order of lines and characters -/

/-- The lines of each file from the last to the first. -/
def tac : Utility := fun args =>
  withOptions 1 [] args fun _ paths =>
    eachContent (fun path t => do
      if path = "-" then
        let reason := if t.opened then "Invalid argument" else t.reason
        fault s!"'standard input': read error: {reason}"
        if !t.opened then fault s!"-: {t.reason}"
      else if t.opened then fault s!"{Quotation.asNeeded path}: read error: Invalid argument"
      else fault s!"failed to open {Quotation.shellQuoted path} for reading: {t.reason}"
      return 1) paths fun _ bytes => do
        Act.emit (wholeLines bytes).reverse.flatten
        return 0

/-- The characters of each line from the last to the first. -/
def rev : Utility := fun args =>
  withOptions 1 [] args fun _ paths =>
    eachContent (fun path t => do
      fault s!"cannot open {path}: {t.reason}"
      return 1) paths fun _ bytes => do
        (wholeLines bytes).forM fun line =>
          let ends := line.getLast? = some 0x0A
          Act.emit ((if ends then line.dropLast else line).reverse ++ if ends then [0x0A] else [])
        return 0

/-- Lines with numbers before those that hold something. -/
def nl : Utility := fun args =>
  withOptions 1 [valued 'b' "body-numbering", valued 'w' "number-width",
      valued 's' "number-separator", valued 'v' "starting-line-number"] args fun o paths => do
    let number (c : Char) (default : Nat) : Nat :=
      ((o.value? c).bind fun v => amount? v.toList).getD default
    let separator := (o.value? 's').getD "\t"
    let width := number 'w' 6
    let all := o.value? 'b' = some "a"
    let paths := if paths.isEmpty then ["-"] else paths
    let (status, _) ← paths.foldlM (fun (status, next) path => do
      match ← contentOf path with
      | .error t => return (max status (← unreadable path t), next)
      | .ok bytes =>
        let next ← (byteLines bytes).foldlM (fun next line => do
          if !all && line.isEmpty then
            Act.say (String.ofList (List.replicate (width + separator.length) ' ') ++ "\n")
            return next
          else
            let ds := Decimal.digits next
            Act.say (String.ofList (List.replicate (width - ds.length) ' ' ++ ds) ++ separator)
            Act.emit (line ++ [0x0A])
            return next + 1) next
        return (status, next)) (0, number 'v' 1)
    leavingInput paths "-"
    return status

/-- The lines of several files beside each other. -/
def paste : Utility := fun args =>
  withOptions 1 [valued 'd' "delimiters", flag 's' "serial"] args fun o paths => do
    let marks := (o.value? 'd').getD "\t"
    let (marks, _) := Format.unescaped ⟨false, false, false, false⟩ marks
    let mark (i : Nat) : List UInt8 :=
      if marks.isEmpty then [] else [marks.getD (i % marks.length) 9]
    let joined (ls : List (List UInt8)) : List UInt8 :=
      (ls.zipIdx.flatMap fun (l, i) => (if i = 0 then [] else mark (i - 1)) ++ l) ++ [0x0A]
    let paths := if paths.isEmpty then ["-"] else paths
    let contents ← paths.mapM fun path => do
      match ← contentOf path with
      | .ok bytes => pure (0, byteLines bytes)
      | .error t => pure (← unreadable path t, [])
    if o.has 's' then contents.forM fun (_, ls) => Act.emit (joined ls)
    else
      let count := (contents.map fun (_, ls) => ls.length).foldl max 0
      (List.range count).forM fun i =>
        Act.emit (joined (contents.map fun (_, ls) => ls.getD i []))
    return (contents.map Prod.fst).foldl max 0

end BenchSweep.Shell.Utility
