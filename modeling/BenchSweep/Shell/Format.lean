import BenchSweep.Shell.Quantity
import BenchSweep.Text.Utf8

/-! Escapes in texts that are printed, and formats with places for values. A format is printed again as
long as it takes arguments and some are left. What shells and programs do differently stands in a
`Dialect`. -/
set_option autoImplicit false

namespace BenchSweep.Shell.Format

/-! ## Escapes -/

/-- Which escapes there are besides the usual ones. -/
structure Escapes where
  /-- `\c`, which ends all printing. -/
  stops : Bool
  /-- A zero before three octal digits. -/
  zero : Bool
  /-- `\x` before digits of base sixteen. -/
  sixteen : Bool
  /-- A quotation mark, and `\u` before the code of a character; an escape that is none is a fault. -/
  codes : Bool

/-- What the text behind a backslash is. -/
inductive Escape where
  | bytes (bs : List UInt8) (after : List Char)
  | stop
  | fault (message : String)

/-- The byte that a letter stands for. -/
def control (c : Char) : Option UInt8 :=
  match c with
  | 'a' => some 7
  | 'b' => some 8
  | 'e' => some 27
  | 'f' => some 12
  | 'n' => some 10
  | 'r' => some 13
  | 't' => some 9
  | 'v' => some 11
  | '\\' => some 92
  | _ => none

/-- The byte of up to `width` digits. -/
def digits (base width : Nat) (cs : List Char) : UInt8 × List Char :=
  let ds := (cs.take width).takeWhile (Arithmetic.isDigitIn base)
  (UInt8.ofNat (Arithmetic.ofDigits base ds), cs.drop ds.length)

/-- The text of a character that is told by its code, which only ASCII can be. -/
def coded (mark : Char) (width : Nat) (cs : List Char) : Escape :=
  let ds := (cs.take width).takeWhile (Arithmetic.isDigitIn 16)
  let n := Arithmetic.ofDigits 16 ds
  if ds.length < width then .fault "missing hexadecimal number in escape"
  else if (n ≤ 0x9F && n ≠ 0x24 && n ≠ 0x40 && n ≠ 0x60) || (0xD800 ≤ n && n ≤ 0xDFFF) then
    .fault (String.ofList ("invalid universal character name \\".toList ++ mark ::
      ds.map Char.toLower))
  else if n < 0x80 then .bytes [UInt8.ofNat n] (cs.drop width)
  else
    let shown := (Nat.toDigits 16 n).map Char.toUpper
    let least := if n < 0x10000 then 4 else 8
    let letter := if n < 0x10000 then 'u' else 'U'
    .bytes (Text.Utf8.encode ('\\' :: letter :: List.replicate (least - shown.length) '0' ++ shown))
      (cs.drop width)

/-- The escape that the text behind a backslash is. -/
def escape (e : Escapes) : List Char → Escape
  | [] => .bytes [92] []
  | c :: cs =>
    if c == 'c' && e.stops then .stop
    else if c == 'x' && e.sixteen then
      if (cs.head?.map (Arithmetic.isDigitIn 16)).getD false then
        let (b, after) := digits 16 2 cs
        .bytes [b] after
      else if e.codes then .fault "missing hexadecimal number in escape"
      else .bytes [92] (c :: cs)
    else if c == 'u' && e.codes then coded c 4 cs
    else if c == 'U' && e.codes then coded c 8 cs
    else if c == '"' && e.codes then .bytes [34] cs
    else if Arithmetic.isDigitIn 8 c then
      let inner := if c == '0' && e.zero && (cs.head?.map (Arithmetic.isDigitIn 8)).getD false then cs
        else c :: cs
      let (b, after) := digits 8 3 inner
      .bytes [b] after
    else
      match control c with
      | some b => .bytes [b] cs
      | none => .bytes [92] (c :: cs)

/-- How the reading of a text with escapes ends. -/
inductive Ending where
  | whole
  | stopped
  | fault (message : String)
deriving DecidableEq

/-- The bytes of a text with escapes. -/
def unescape (e : Escapes) : Nat → List Char → List UInt8 × Ending
  | 0, _ => ([], .whole)
  | _ + 1, [] => ([], .whole)
  | n + 1, '\\' :: cs =>
    match escape e cs with
    | .stop => ([], .stopped)
    | .fault message => ([], .fault message)
    | .bytes bs after =>
      let (more, ending) := unescape e n after
      (bs ++ more, ending)
  | n + 1, c :: cs =>
    let (more, ending) := unescape e n cs
    (String.utf8EncodeChar c ++ more, ending)

def unescaped (e : Escapes) (s : String) : List UInt8 × Ending :=
  unescape e (s.length + 1) s.toList

/-! ## Dialects -/

/-- What formats mean to the program that prints them. -/
structure Dialect where
  /-- The numbers with a point that it computes with. -/
  precision : Quantity.Precision
  /-- The escapes of a format. -/
  escapes : Escapes
  /-- The escapes of an argument. -/
  textEscapes : Escapes
  /-- The flags. -/
  flags : List Char
  /-- Characters before the letter of a place that mean nothing. -/
  lengths : List Char
  /-- Whether a flag that does not fit the letter, or anything before the letter `b`, is a fault. -/
  strict : Bool
  /-- How the letter `q` shows an argument, if there is that letter. -/
  quote : Option (String → String)
  /-- What is told of an argument that is no number. -/
  notANumber : String → String
  /-- What is told of an argument that only starts with a number. -/
  unfinished : String → String
  /-- What is told of a number that is too great. -/
  outOfRange : String → String
  /-- What is told of the characters behind one that stands for its code. -/
  ignored : String → Option String
  /-- What is told of a place that there is not. -/
  invalid : String → String
  /-- What is told of a format that ends inside a place. -/
  endless : String → String

/-- How a value is laid out. -/
structure Layout where
  left : Bool
  zero : Bool
  plus : Bool
  space : Bool
  alternate : Bool
  width : Nat
  precision : Option Nat

namespace Layout

def has (flags : List Char) (width : Int) (precision : Option Nat) : Layout :=
  ⟨flags.contains '-' || width < 0, flags.contains '0', flags.contains '+', flags.contains ' ',
    flags.contains '#', width.natAbs, precision⟩

/-- Fills up to the width, with zeros behind the mark if it may be so. -/
def fill (l : Layout) (zeros : Bool) (mark body : List UInt8) : List UInt8 :=
  let room := l.width - (mark.length + body.length)
  if l.left then mark ++ body ++ List.replicate room 32
  else if zeros && l.zero then mark ++ List.replicate room 48 ++ body
  else List.replicate room 32 ++ mark ++ body

def sign (l : Layout) (negative : Bool) : List UInt8 :=
  if negative then [45] else if l.plus then [43] else if l.space then [32] else []

/-- A text, cut at the precision. -/
def text (l : Layout) (bytes : List UInt8) : List UInt8 :=
  l.fill false [] (bytes.take (l.precision.getD bytes.length))

/-- The digits of a whole number, at least as many as the precision says. -/
def whole (l : Layout) (n : Nat) (ds : List Char) : List Char :=
  match l.precision with
  | none => ds
  | some least => if n = 0 && least = 0 then [] else List.replicate (least - ds.length) '0' ++ ds

/-- A whole number with a sign. -/
def signed (l : Layout) (n : Int) : List UInt8 :=
  l.fill l.precision.isNone (l.sign (n < 0))
    (Text.Utf8.encode (l.whole n.natAbs (Decimal.digits n.natAbs)))

/-- A whole number without a sign in the base that a letter names. -/
def unsigned (l : Layout) (kind : Char) (n : Nat) : List UInt8 :=
  let ds := match kind with
    | 'o' => Nat.toDigits 8 n
    | 'x' => Nat.toDigits 16 n
    | 'X' => (Nat.toDigits 16 n).map Char.toUpper
    | _ => Decimal.digits n
  let body := l.whole n ds
  let body := if kind == 'o' && l.alternate && body.head? ≠ some '0' then '0' :: body else body
  let mark : List UInt8 := if l.alternate && n ≠ 0 then
      (if kind == 'x' then [48, 120] else if kind == 'X' then [48, 88] else [])
    else []
  l.fill l.precision.isNone mark (Text.Utf8.encode body)

/-- A number with a point in the notation that a letter names. -/
def quantity (l : Layout) (p : Quantity.Precision) (kind : Char) (q : Quantity) : List UInt8 :=
  let cs := q.unsigned p kind.toLower l.precision l.alternate
  let cs := if kind.isUpper then cs.map Char.toUpper else cs
  match q with
  | .finite .. =>
    let mark := if kind.toLower == 'a' then cs.take 2 else []
    l.fill true (l.sign q.isNegative ++ Text.Utf8.encode mark) (Text.Utf8.encode (cs.drop mark.length))
  | _ => l.fill false (l.sign q.isNegative) (Text.Utf8.encode cs)

end Layout

/-! ## Printing -/

/-- What is printed, or told as a fault. -/
inductive Event where
  | bytes (bs : List UInt8)
  | fault (message : String)

/-- What printing has come to: the arguments that are left and what came out, the last first. -/
structure Printing where
  args : List String
  events : List Event
  /-- Whether an argument was not what it should be. -/
  failed : Bool

/-- A step of printing, which may end all of it. -/
abbrev Print (α : Type) := ExceptT Ending (StateM Printing) α

namespace Print

def emit (bs : List UInt8) : Print Unit := modify fun p => { p with events := .bytes bs :: p.events }

/-- Tells of an argument that is not what it should be. -/
def complain (message : String) : Print Unit :=
  modify fun p => { p with events := .fault message :: p.events, failed := true }

def warn (message : String) : Print Unit :=
  modify fun p => { p with events := .fault message :: p.events }

/-- The next argument, if there is one. -/
def argument? : Print (Option String) := do
  let p ← get
  set { p with args := p.args.drop 1 }
  return p.args.head?

def argument : Print String := return (← argument?).getD ""

/-- Tells what is wrong with an argument of which `rest` is no number. -/
def judge (d : Dialect) (s : String) (rest : List Char) (outOfRange : Bool) : Print Unit := do
  if rest.isEmpty then
    if outOfRange then complain (d.outOfRange s)
  else if rest.length = s.length then complain (d.notANumber s)
  else complain (d.unfinished s)

/-- The code of the character behind a quotation mark. -/
def code? (d : Dialect) (s : String) : Print (Option Nat) := do
  match s.toList with
  | mark :: inner =>
    if (mark == '"' || mark == '\'') && !(d.strict && inner.isEmpty) then
      if let some behind := d.ignored (String.ofList (inner.drop 1)) then
        if 1 < inner.length then warn behind
      return some (((Text.Utf8.encode inner).head?.map UInt8.toNat).getD 0)
    else return none
  | [] => return none

/-- A number as an argument, between two bounds. -/
def integer (d : Dialect) (least greatest : Int) : Print Int := do
  match ← argument? with
  | none => return 0
  | some s =>
    match ← code? d s with
    | some n => return n
    | none =>
      let (n, rest) := Arithmetic.reading s.toList
      let n := n.getD 0
      let kept := max least (min greatest n)
      judge d s rest (kept ≠ n)
      return kept

/-- A number as an argument that counts characters; negative if it is no number of the machine. -/
def count (d : Dialect) : Print Int := integer d Arithmetic.leastNumber Arithmetic.greatestNumber

/-- A number with a point as an argument. -/
def quantity (d : Dialect) : Print Quantity := do
  match ← argument? with
  | none => return .ofInt 0
  | some s =>
    match ← code? d s with
    | some n => return .ofInt n
    | none =>
      let (q, outOfRange, rest) := Quantity.read d.precision s.toList
      judge d s rest outOfRange
      return q

end Print

/-- A number in a place of a format: digits, or an argument. -/
inductive Count where
  | given (n : Nat)
  | argument

/-- The number that a text starts with, and the text behind. -/
def count (lenient : Bool) : List Char → Option Count × List Char
  | '*' :: cs => (some .argument, cs)
  | cs =>
    let ds := cs.takeWhile fun c => c.isDigit || (lenient && c == '*')
    (if ds.isEmpty then none else some (.given (Arithmetic.ofDigits 10 (ds.filter Char.isDigit))),
      cs.drop ds.length)

/-- The flags that a letter allows, where that matters. -/
def allows (kind flag : Char) : Bool :=
  match flag with
  | '\'' => ['d', 'i', 'u', 'f', 'F', 'g', 'G'].contains kind
  | 'I' => ['d', 'i', 'u', 'f', 'F', 'g', 'G'].contains kind
  | '#' => !(['c', 'd', 'i', 's', 'u'].contains kind)
  | '0' => !(['c', 's'].contains kind)
  | _ => true

def letters : List Char :=
  ['c', 's', 'd', 'i', 'o', 'u', 'x', 'X', 'a', 'A', 'e', 'E', 'f', 'F', 'g', 'G']

/-- Prints a value as a letter says. -/
def value (d : Dialect) (l : Layout) (kind : Char) : Print Unit := do
  match kind with
  | 's' => Print.emit (l.text (Text.Utf8.bytes (← Print.argument)))
  | 'c' => Print.emit (l.fill false [] [(Text.Utf8.bytes (← Print.argument)).headD 0])
  | 'b' =>
    let (bytes, ending) := unescaped d.textEscapes (← Print.argument)
    Print.emit (l.text bytes)
    if ending ≠ .whole then throw ending
  | _ =>
    if kind == 'd' || kind == 'i' then Print.emit (l.signed (← Print.count d))
    else if ['o', 'u', 'x', 'X'].contains kind then
      let n ← Print.integer d (-(Nat.pow 2 64 - 1)) (Nat.pow 2 64 - 1)
      Print.emit (l.unsigned kind (n % Nat.pow 2 64).toNat)
    else Print.emit (l.quantity d.precision kind (← Print.quantity d))

/-- Prints the place that the text behind a percent sign starts with. -/
def place (d : Dialect) (cs : List Char) : Print (List Char) := do
  let flags := cs.takeWhile d.flags.contains
  let (width, behind) := count (!d.strict) (cs.drop flags.length)
  let wide ← match width with
    | none => pure 0
    | some (.given n) => pure (n : Int)
    | some .argument => Print.count d
  let (precision, behind) ← match behind with
    | '.' :: more =>
      let (p, behind) := count (!d.strict) more
      match p with
      | none => pure (some 0, behind)
      | some (.given n) => pure (some n, behind)
      | some .argument =>
        let n ← Print.count d
        pure (if n < 0 then none else some n.toNat, behind)
    | _ => pure (none, behind)
  let behind := behind.dropWhile d.lengths.contains
  let shown (width : Nat) : String := String.ofList ('%' :: cs.take width)
  let before := cs.length - behind.length
  match behind with
  | [] => throw (.fault (d.endless (shown before)))
  | kind :: after =>
    let known := letters.contains kind || (kind == 'b' && (!d.strict || before = 0))
    let fits := !d.strict || (flags.all (allows kind) && !(kind == 'c' && precision.isSome))
    if !(known && fits) then throw (.fault (d.invalid (shown (before + 1))))
    value d (Layout.has flags wide precision) kind
    return after

/-- Prints a format once. -/
def once (d : Dialect) : Nat → List Char → Print Unit
  | 0, _ => return ()
  | _ + 1, [] => return ()
  | n + 1, '%' :: '%' :: cs => do
    Print.emit [37]
    once d n cs
  | n + 1, '%' :: cs => do
    match d.quote, cs with
    | some quote, 'q' :: cs =>
      if let some s ← Print.argument? then Print.emit (Text.Utf8.bytes (quote s))
      once d n cs
    | _, _ => once d n (← place d cs)
  | n + 1, '\\' :: cs => do
    match escape d.escapes cs with
    | .stop => throw .stopped
    | .fault message => throw (.fault message)
    | .bytes bs after =>
      Print.emit bs
      once d n after
  | n + 1, c :: cs => do
    let plain := c :: cs.takeWhile fun c => c ≠ '%' && c ≠ '\\'
    Print.emit (Text.Utf8.encode plain)
    once d n ((c :: cs).drop plain.length)

/-- Prints a format again as long as it takes arguments and some are left. -/
def again (d : Dialect) (format : List Char) : Nat → Print Unit
  | 0 => return ()
  | n + 1 => do
    let before := (← get).args.length
    once d (format.length + 1) format
    let left := (← get).args.length
    if left ≠ 0 && left ≠ before then again d format n

/-- What comes out of a format with these arguments, how it ends and what is left. -/
def print (d : Dialect) (format : String) (args : List String) : Ending × List Event × Printing :=
  let (result, p) := (ExceptT.run (again d format.toList (args.length + 1))).run ⟨args, [], false⟩
  (match result with
    | .ok () => .whole
    | .error ending => ending, p.events.reverse, p)

end BenchSweep.Shell.Format
