import BenchSweep.Shell.Pattern
import BenchSweep.Shell.Process

/-! Words expanded to fields. Parameters, outputs and numbers are put in first; what came in without
quotes is then split at blanks, and fields that are patterns become the paths that they stand for. -/
set_option autoImplicit false

namespace BenchSweep.Shell

/-- An expansion, which may end the script. -/
abbrev Expand (α : Type) := ExceptT Flow Act α

/-- A piece of an expanded word. -/
inductive Piece where
  /-- Characters that are split at separators where `split` says so. -/
  | marks (ms : List Mark) (split : Bool)
  /-- A quotation mark: there is a field, even if it is empty. -/
  | quote
  /-- Texts of which each but the first starts a field of its own. -/
  | fields (values : List String)

namespace Expand

def marked (quoted : Bool) (cs : List Char) : List Mark := cs.map (⟨·, quoted⟩)

/-- The value of an expansion as a piece. -/
def piece (quoted : Bool) (s : String) : Piece := .marks (marked quoted s.toList) (!quoted)

/-- Ends the script because of a fault. -/
def stop {α : Type} (message : String) : Expand α := do
  throw (← (Act.abandon message : Act Flow))

/-! ## Variables -/

/-- Gives a variable a value, if it can have one. -/
def assign (name value : String) : Expand Unit := do
  if (← get).fixed.contains name then stop s!"{name}: is read only"
  else if !Parser.isName name.toList then stop s!"{name}: bad variable name"
  else (Act.assign name value : Act Unit)

/-- The value of a parameter that is one text. -/
def lookUp (name : String) : Act (Option String) := do
  let s ← get
  match name with
  | "#" => return some (String.ofList (Decimal.digits s.arguments.values.length))
  | "?" => return some (String.ofList (Decimal.digits s.status))
  | "$" => return some (String.ofList (Decimal.digits s.process))
  | "!" => return s.lastJob.map fun n => String.ofList (Decimal.digits n)
  | "-" => return some s.optionLetters
  | "0" => return some s.name
  | _ =>
    if name.toList.all Char.isDigit then
      match Arithmetic.ofDigits 10 name.toList with
      | 0 => return some s.name
      | n + 1 => return s.arguments.values[n]?
    else return s.values.get? name

/-- The characters at which fields are split. -/
def separators : Act (List Char) := do
  return ((← Act.value? "IFS").getD " \t\n").toList

/-- What stands between all parameters when they are one text. -/
def joint : Act String := do return ((← separators).head?.map Char.toString).getD ""

/-- Whether a name stands for all parameters. -/
def isAll (name : String) : Bool := name == "@" || name == "*"

/-- All parameters as one piece; `full` tells that fields are made. Without quotes each ends a field,
as at a blank. -/
def allParameters (name : String) (quoted full : Bool) (values : List String) : Act (List Piece) := do
  if quoted && full && name == "@" then
    return if values.isEmpty then [] else [.fields values]
  else if quoted || !full then return [piece quoted ((← joint).intercalate values)]
  else return [piece false ("\x00".intercalate values)]

/-! ## Home directories -/

/-- The home directory of a user. -/
def homeOf (user : String) : Option String :=
  [("root", "/root"), ("daemon", "/usr/sbin"), ("bin", "/bin"), ("sys", "/dev"), ("sync", "/bin"),
    ("games", "/usr/games"), ("man", "/var/cache/man"), ("lp", "/var/spool/lpd"),
    ("mail", "/var/mail"), ("news", "/var/spool/news"), ("uucp", "/var/spool/uucp"),
    ("proxy", "/bin"), ("www-data", "/var/www"), ("backup", "/var/backups"), ("list", "/var/list"),
    ("irc", "/run/ircd"), ("nobody", "/nonexistent")].lookup user

/-- What a word is expanded for. -/
structure Purpose where
  /-- Whether it becomes fields, and not one text. -/
  full : Bool
  /-- Whether its plain text is split, too. -/
  splitsPlain : Bool
  /-- Whether home directories are put in. -/
  homes : Bool
  /-- Whether they are put in behind colons too. -/
  colons : Bool

namespace Purpose

/-- One text as it stands. -/
def document : Purpose := ⟨false, false, false, false⟩

/-- One text. -/
def text : Purpose := ⟨false, false, true, false⟩

/-- The value of a variable. -/
def value : Purpose := ⟨false, false, true, true⟩

/-- The words of a command. -/
def fields : Purpose := ⟨true, false, true, false⟩

end Purpose

/-- A plain text as a piece. -/
def plainPiece (p : Purpose) (cs : List Char) : List Piece :=
  if cs.isEmpty then [] else [.marks (marked false cs) p.splitsPlain]

/-- A plain text at the start of a word, or behind a colon, with a home directory put in. `last` tells
that the word or the part up to a colon ends with it. -/
def homePieces (home : Option String) (p : Purpose) (last : Bool) (cs : List Char) : List Piece :=
  match cs with
  | '~' :: rest =>
    let user := rest.takeWhile fun c => c ≠ '/' && !(p.colons && c == ':')
    let after := rest.drop user.length
    if after.isEmpty && !last then plainPiece p cs
    else
      match if user.isEmpty then home else homeOf (String.ofList user) with
      | none => plainPiece p cs
      | some path =>
        (if path = "" then [] else [.marks (marked true path.toList) false]) ++ plainPiece p after
  | _ => plainPiece p cs

/-- A plain text with the home directories put in; `first` tells that the word starts with it and
`last` that it ends with it. -/
def plainPieces (home : Option String) (p : Purpose) (first last : Bool) (cs : List Char) :
    List Piece :=
  if !p.homes then plainPiece p cs
  else
    let segments := if p.colons then Text.splitWhere (· == ':') cs else [cs]
    (segments.zipIdx.map fun (segment, i) =>
      if i = 0 && !first then plainPiece p segment
      else
        (if i = 0 then [] else plainPiece p [':']) ++
          homePieces home p (i + 1 < segments.length || last) segment).flatten

/-! ## Parts -/

/-- What a script writes, without the line feeds at its end. -/
def output (run : Script → Act Flow) (script : Script) : Expand String := do
  let pipe ← (Act.openPipe [] : Act Nat)
  let status ← (do Process.reap (← Process.branch run (do
    Act.setChannel 1 (.pipe pipe)
    if script.isEmpty then Act.done 0 else run script)) : Act Nat)
  modify fun s => { s with substituted := status }
  if let some signal ← (Process.struck : Act (Option Nat)) then throw (.killed signal)
  let bytes ← (Act.drain pipe : Act (List UInt8))
  let text := Text.Utf8.decodeLossy (bytes.filter (· ≠ 0))
  return String.ofList (text.reverse.dropWhile (· == '\n')).reverse

/-- The signal of a number that is too great for the processor. -/
def arithmeticSignal : Nat := Signal.floatingPoint

/-- The value of an arithmetic expression. -/
def number (text : String) : Expand String := do
  let s ← get
  match Arithmetic.evaluate (fun name => (s.values.get? name).getD "") text.toList with
  | .ok (n, assigned) =>
    assigned.reverse.forM fun (name, v) => assign name (String.ofList (Decimal.integer v))
    return String.ofList (Decimal.integer n)
  | .error .tooGreat => throw (.killed arithmeticSignal)
  | .error e => stop (e.message text)

/-- The text of pieces put together. -/
def textOf (pieces : List Piece) : Act (List Mark) := do
  let between ← joint
  return pieces.flatMap fun
    | .marks ms _ => ms
    | .quote => []
    | .fields values => marked true (between.intercalate values).toList

/-- The length of a value. -/
def lengthText (value : Option String) : String :=
  String.ofList (Decimal.digits (value.getD "").utf8ByteSize)

mutual

def part (run : Script → Act Flow) (p : Purpose) : Part → Expand (List Piece)
  | .plain cs => return plainPiece p cs
  | .quoted cs => return if cs.isEmpty then [.quote] else [.marks (marked true cs) false]
  | .output script quoted => return [piece quoted (← output run script)]
  | .number expression quoted => do
    let pieces ← parts run .document true expression
    return [piece quoted (← number (Mark.text (← (textOf pieces : Act (List Mark)))))]
  | .parameter name none quoted => value name quoted p
  | .parameter name (some (change, word)) quoted => do
    let s ← get
    let current : Option String ← if isAll name then
        some <$> (return (← joint).intercalate s.arguments.values : Act String)
      else (lookUp name : Act (Option String))
    let missing (whenEmpty : Bool) : Bool := current.isNone || (whenEmpty && current = some "")
    let demanded : Expand Unit := do
      if current.isNone && s.has 'u' then stop s!"{name}: parameter not set"
    match change with
    | .unknown => stop "Bad substitution"
    | .length =>
      demanded
      return [piece quoted (lengthText current)]
    | .fallback whenEmpty =>
      if missing whenEmpty then parts run { p with splitsPlain := !quoted, homes := true } true word
      else value name quoted p
    | .alternative whenEmpty =>
      if missing whenEmpty then return []
      else parts run { p with splitsPlain := !quoted, homes := true } true word
    | .assign whenEmpty =>
      if missing whenEmpty then
        let pieces ← parts run .text true word
        assign name (Mark.text (← (textOf pieces : Act (List Mark))))
      value name quoted p
    | .demand whenEmpty =>
      if missing whenEmpty then
        let pieces ← parts run .text true word
        let said := Mark.text (← (textOf pieces : Act (List Mark)))
        let detail := if whenEmpty then " or null" else ""
        stop (if word.isEmpty then s!"{name}: parameter not set{detail}" else s!"{name}: {said}")
      else value name quoted p
    | .cutStart longest =>
      demanded
      let pieces ← parts run .text true word
      let pattern := Glob.ofWord (← (textOf pieces : Act (List Mark)))
      return [piece quoted (Glob.cutStart pattern longest (current.getD ""))]
    | .cutEnd longest =>
      demanded
      let pieces ← parts run .text true word
      let pattern := Glob.ofWord (← (textOf pieces : Act (List Mark)))
      return [piece quoted (Glob.cutEnd pattern longest (current.getD ""))]
where
  /-- The pieces of a parameter as it is. -/
  value (name : String) (quoted : Bool) (p : Purpose) : Expand (List Piece) := do
    let s ← get
    if isAll name then (allParameters name quoted p.full s.arguments.values : Act (List Piece))
    else
      match ← (lookUp name : Act (Option String)) with
      | some v => return [piece quoted v]
      | none =>
        if s.has 'u' then stop s!"{name}: parameter not set" else return [piece quoted ""]

/-- The pieces of parts; `first` tells that a word starts with them. -/
def parts (run : Script → Act Flow) (p : Purpose) (first : Bool) : List Part → Expand (List Piece)
  | [] => return []
  | .plain cs :: qs => do
    let home ← (Act.value? "HOME" : Act (Option String))
    let here := plainPieces home p first qs.isEmpty cs
    return here ++ (← parts run p false qs)
  | q :: qs => do
    let here ← part run p q
    return here ++ (← parts run p false qs)

end

/-! ## Fields -/

/-- The fields that are complete, the last one first, and the marks of the one that is not, the last
one first. -/
structure Fields where
  complete : List (List Mark)
  marks : List Mark
  /-- Whether a quotation mark stands in the field. -/
  quoted : Bool
  /-- Whether the texts that were put in last each start a field. -/
  separate : Bool

namespace Fields

def none : Fields := ⟨[], [], false, false⟩

def isFresh (f : Fields) : Bool := f.marks.isEmpty && !f.quoted

/-- Ends the field, even if it is empty. -/
def finish (f : Fields) : Fields :=
  { f with complete := f.marks.reverse :: f.complete, marks := [], quoted := false }

def push (f : Fields) (m : Mark) : Fields := { f with marks := m :: f.marks }

/-- Whether a character separates fields like a blank. -/
def isBlank (c : Char) : Bool := c == ' ' || c == '\t' || c == '\n' || c == '\x00'

/-- Splits marks at separators. Blanks around another separator belong to it; `behind` tells, behind a
separator, whether one that is no blank may still belong to it. -/
def split (separators : List Char) (afterSeparate : Bool) : Option Bool → List Mark → Fields → Fields
  | _, [], f => f
  | behind, m :: ms, f =>
    let separates := separators.contains m.char || m.char == '\x00'
    let blank := isBlank m.char
    match behind with
    | some more =>
      if separates && (blank || more) then split separators afterSeparate (some (more && blank)) ms f
      else if separates then split separators afterSeparate (some false) ms f.finish
      else split separators afterSeparate Option.none ms (f.push m)
    | Option.none =>
      if !separates then split separators afterSeparate Option.none ms (f.push m)
      else if blank && !afterSeparate && f.isFresh then
        split separators afterSeparate Option.none ms f
      else split separators afterSeparate (some (blank && !afterSeparate)) ms f.finish

/-- Each text but the first starts a field. -/
def append (f : Fields) : List String → Fields
  | [] => f
  | [v] => (marked true v.toList).foldl push f
  | v :: vs => ((marked true v.toList).foldl push f).finish.append vs

def take (separators : List Char) (f : Fields) : Piece → Fields
  | .quote => { f with quoted := true }
  | .marks ms true => { split separators f.separate Option.none ms f with separate := false }
  | .marks ms false => ms.foldl push f
  | .fields values => { f.append values with separate := true }

/-- All fields in order. An empty one at the end counts only if it was quoted. -/
def toList (f : Fields) : List (List Mark) :=
  (if f.separate || !f.isFresh then f.finish else f).complete.reverse

end Fields

/-- The fields of a word, patterns put in as paths. -/
def wordFields (run : Script → Act Flow) (w : Word) : Expand (List String) := do
  let pieces ← parts run .fields true w
  let mark ← (separators : Act (List Char))
  let fields := (pieces.foldl (Fields.take mark) Fields.none).toList
  if (← get).has 'f' then return fields.map Mark.text
  let fs ← (Act.files : Act Files)
  return fields.flatMap (expandPaths fs)

/-- The marks of a word as one text, neither split nor taken for a pattern. -/
def marks (run : Script → Act Flow) (p : Purpose) (w : Word) : Expand (List Mark) := do
  (textOf (← parts run p true w) : Act (List Mark))

def text (run : Script → Act Flow) (p : Purpose) (w : Word) : Expand String := do
  return Mark.text (← marks run p w)

/-- A word as a pattern. -/
def pattern (run : Script → Act Flow) (w : Word) : Expand (List Glob) := do
  return Glob.ofWord (← marks run .text w)

/-- The commands whose arguments are assignments. -/
def declarations : List String := ["export", "readonly", "local"]

/-- Whether the words before are those of a command that declares variables. -/
def declares (before : List String) : Bool :=
  match before.dropWhile (· = "command") with
  | name :: _ => declarations.contains name
  | [] => false

/-- The fields of the words of a command; `before` are those of the words before. -/
def fields (run : Script → Act Flow) (before : List String) : List Word → Expand (List String)
  | [] => return before
  | w :: ws => do
    match if declares before then Parser.assignment? w else none with
    | some (name, value) =>
      let text ← text run .value value
      fields run (before ++ [name ++ "=" ++ text]) ws
    | none =>
      let here ← wordFields run w
      fields run (before ++ here) ws

end Expand

end BenchSweep.Shell
