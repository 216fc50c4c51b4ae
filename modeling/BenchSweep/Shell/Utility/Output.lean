import BenchSweep.Shell.Format
import BenchSweep.Shell.Utility.Basic

/-! Programs that write out what they are given. -/
set_option autoImplicit false

namespace BenchSweep.Shell.Utility

/-! ## Arguments -/

/-- The options of `echo`: whether a line feed is written and escapes are read. -/
def echoOptions : Bool × Bool → List String → (Bool × Bool) × List String
  | o, [] => (o, [])
  | (feed, escapes), arg :: rest =>
    match arg.toList with
    | '-' :: cs =>
      if !cs.isEmpty && cs.all fun c => c == 'n' || c == 'e' || c == 'E' then
        echoOptions (cs.foldl (fun (feed, escapes) c =>
          if c == 'n' then (false, escapes) else (feed, c == 'e')) (feed, escapes)) rest
      else ((feed, escapes), arg :: rest)
    | _ => ((feed, escapes), arg :: rest)

def echo : Utility := fun args => do
  let ((feed, escapes), words) := echoOptions (true, false) args
  let text := " ".intercalate words
  let (bytes, ending) := if escapes then Format.unescaped ⟨true, true, true, false⟩ text
    else (Text.Utf8.bytes text, .whole)
  Act.emit (bytes ++ if feed && ending = .whole then [0x0A] else [])
  return 0

/-- Formats as the program prints them. -/
def dialect : Format.Dialect where
  precision := Quantity.extended
  escapes := ⟨true, false, true, true⟩
  textEscapes := ⟨true, true, true, true⟩
  flags := ['\'', 'I', '-', '+', ' ', '0', '#']
  lengths := ['l', 'L', 'h', 'j', 't', 'z']
  strict := true
  quote := some Quotation.asNeeded
  notANumber s := s!"{Quotation.quoted s}: expected a numeric value"
  unfinished s := s!"{Quotation.quoted s}: value not completely converted"
  outOfRange s := s!"{Quotation.quoted s}: Numerical result out of range"
  ignored s :=
    some s!"warning: {s}: character(s) following character constant have been ignored"
  invalid s := s!"{s}: invalid conversion specification"
  endless s := s!"{s}: invalid conversion specification"

def printf : Utility := fun args => do
  match if args.head? = some "--" then args.drop 1 else args with
  | [] => missingOperand
  | format :: values =>
    let (ending, events, after) := Format.print dialect format values
    events.forM fun
      | .bytes bs => Act.emit bs
      | .fault message => fault message
    match ending with
    | .fault message =>
      fault message
      return 1
    | _ =>
      if let (.whole, extra :: _) := (ending, after.args) then
        fault s!"warning: ignoring excess arguments, starting with {Quotation.quoted extra}"
      return if after.failed then 1 else 0

/-- A line again and again, more often than anybody reads. -/
def yes : Utility := fun args =>
  withOptions 1 [] args fun _ args => do
    let line := Text.Utf8.bytes (if args.isEmpty then "y\n" else " ".intercalate args ++ "\n")
    match ← Act.writeTo 1 (List.replicate (Nat.pow 2 14) line).flatten with
    | none => return 0
    | some r =>
      fault s!"standard output: {r.reason}"
      return 1

/-! ## Contents -/

/-- How `cat` shows what it reads. -/
structure Shown where
  /-- Whether lines get numbers. -/
  numbered : Bool
  /-- Whether lines without content get none. -/
  sparingly : Bool
  /-- Whether several lines without content become one. -/
  squeezed : Bool
  ends : Bool
  tabs : Bool
  controls : Bool

/-- Where `cat` is: the number of the last line, whether one starts, and how many without content stand
before. -/
structure Place where
  number : Nat
  fresh : Bool
  blanks : Nat

/-- A number before a line. -/
def numberText (n : Nat) : List UInt8 :=
  let ds := Decimal.digits n
  Text.Utf8.encode (List.replicate (6 - ds.length) ' ' ++ ds ++ ['\t'])

/-- A byte with characters that can be seen. -/
def visible (s : Shown) (b : UInt8) : List UInt8 :=
  if b = 9 then (if s.tabs then [94, 73] else [9])
  else if !s.controls then [b]
  else if 128 ≤ b then [77, 45] ++ plain (b - 128)
  else plain b
where
  plain (b : UInt8) : List UInt8 :=
    if b < 32 then [94, b + 64] else if b = 127 then [94, 63] else [b]

/-- The bytes as they are shown, and where they end. -/
def show_ (s : Shown) : List UInt8 → Place → List UInt8 → List UInt8 × Place
  | [], p, out => (out, p)
  | b :: bs, p, out =>
    if b = 0x0A then
      if p.fresh && s.squeezed && 1 ≤ p.blanks then show_ s bs p out
      else
        let counts := p.fresh && s.numbered && !s.sparingly
        let number := if counts then p.number + 1 else p.number
        let mark := if counts then (numberText number).reverse else []
        let ending : List UInt8 := if s.ends then [0x0A, 36] else [0x0A]
        show_ s bs ⟨number, true, if p.fresh then p.blanks + 1 else 0⟩ (ending ++ mark ++ out)
    else
      let counts := p.fresh && s.numbered
      let number := if counts then p.number + 1 else p.number
      let mark := if counts then (numberText number).reverse else []
      let here := if b = 13 && s.ends && bs.head? = some 0x0A then [94, 77] else visible s b
      show_ s bs ⟨number, false, 0⟩ (here.reverse ++ mark ++ out)

def cat : Utility := fun args =>
  withOptions 1 [flag 'b' "number-nonblank", flag 'n' "number", flag 's' "squeeze-blank",
      flag 'v' "show-nonprinting", flag 'E' "show-ends", flag 'T' "show-tabs", flag 'A' "show-all",
      flag 'e' "", flag 't' "", flag 'u' ""] args fun o paths => do
    if (← Act.channel? 1).isNone then
      fault "standard output: Bad file descriptor"
      return 1
    let has (letters : List Char) : Bool := letters.any o.has
    let s : Shown := ⟨has ['n', 'b'], o.has 'b', o.has 's', has ['E', 'A', 'e'], has ['T', 'A', 't'],
      has ['v', 'A', 'e', 't']⟩
    let paths := if paths.isEmpty then ["-"] else paths
    let (status, _) ← paths.foldlM (fun (status, place) path => do
      match ← contentOf path with
      | .ok bytes =>
        let (out, place) := show_ s bytes place []
        Act.emit out.reverse
        return (status, place)
      | .error t => return (max status (← unreadable path t), place)) ((0, ⟨0, true, 0⟩) : Nat × Place)
    leavingInput paths "closing standard input"
    return status

def tee : Utility := fun args =>
  withOptions 1 [flag 'a' "append", flag 'i' "ignore-interrupts", flag 'p' "",
      ⟨'?', "output-error", .optional⟩] args fun o paths => do
    let bytes ← input
    let given := match bytes with
      | .ok bytes => bytes
      | .error _ => []
    let status ← paths.foldlM (fun status path => do
      let fs ← Act.files
      let before := match fs.readBytes ⟨path⟩ with
        | .ok before => if o.has 'a' then before else []
        | .error _ => []
      match fs.writable ⟨path⟩ with
      | .ok place =>
        if (device? place).isNone then Act.setFiles (fs.put place (.file (before ++ given)))
        else if place = ["dev", "stderr"] then let _ ← Act.writeTo 2 given
        else if place = ["dev", "stdout"] then let _ ← Act.writeTo 1 given
        return status
      | .error e =>
        fault s!"{Quotation.asNeeded path}: {reason e}"
        return 1) 0
    match bytes with
    | .error t =>
      fault s!"read error: {t.reason}"
      if !t.opened then fault s!"standard input: {t.reason}"
      return 1
    | .ok bytes =>
      match ← if bytes.isEmpty then pure none else Act.writeTo 1 bytes with
      | none => return status
      | some r =>
        fault s!"'standard output': {r.reason}"
        return 1

end BenchSweep.Shell.Utility
