import BenchSweep.Shell.Utility.Lines

/-! Programs that put lines in order and that look at equal neighbours. -/
set_option autoImplicit false

namespace BenchSweep.Shell.Utility

/-! ## Keys -/

/-- How keys are compared. -/
structure Comparison where
  numeric : Bool
  reversed : Bool
  folded : Bool
  /-- Whether blanks at the start do not belong to a key. -/
  trimmed : Bool

/-- Where a key starts and ends: fields and characters in them, counted from one; no characters stand
for the whole end of a field. -/
structure Key where
  field : Nat
  character : Nat
  lastField : Option Nat
  lastCharacter : Nat
  comparison : Comparison

def comparisonOf (letters : List Char) : Comparison :=
  ⟨letters.any ['n', 'g', 'h'].contains, letters.contains 'r', letters.contains 'f',
    letters.contains 'b'⟩

/-- A field and a character in it, with letters behind. -/
def keyPart? (cs : List Char) : Option (Nat × Option Nat × List Char) :=
  let f := cs.takeWhile Char.isDigit
  let rest := cs.drop f.length
  let (c, letters) : Option Nat × List Char := match rest with
    | '.' :: more =>
      let c := more.takeWhile Char.isDigit
      (some (Arithmetic.ofDigits 10 c), more.drop c.length)
    | _ => (none, rest)
  if f.isEmpty || !letters.all ['b', 'd', 'f', 'g', 'h', 'i', 'M', 'n', 'R', 'r', 'V'].contains then none
  else some (Arithmetic.ofDigits 10 f, c, letters)

/-- The key that a text says; without letters it is compared as `default` says. -/
def key? (default : Comparison) (s : String) : Option Key := do
  let make (f : Nat) (c : Option Nat) (last : Option Nat) (lastC : Nat) (letters : List Char) :
      Option Key :=
    if f = 0 then none
    else some ⟨f, c.getD 1, last, lastC, if letters.isEmpty then default else comparisonOf letters⟩
  match Text.splitOnce ',' s.toList with
  | none =>
    let (f, c, letters) ← keyPart? s.toList
    make f c none 0 letters
  | some (a, b) =>
    let (f, c, letters) ← keyPart? a
    let (g, d, more) ← keyPart? b
    make f c (some g) (d.getD 0) (letters ++ more)

def isBlankByte (b : UInt8) : Bool := b = 32 || b = 9

/-- How many bytes the first `n` fields of a line have. -/
def fieldsWidth (separator : Option UInt8) : Nat → List UInt8 → Nat
  | 0, _ => 0
  | n + 1, line =>
    match separator with
    | some s =>
      let field := line.takeWhile (· ≠ s)
      if field.length < line.length then
        field.length + 1 + fieldsWidth separator n (line.drop (field.length + 1))
      else line.length
    | none =>
      let blanks := line.takeWhile isBlankByte
      let field := (line.drop blanks.length).takeWhile (!isBlankByte ·)
      let width := blanks.length + field.length
      width + fieldsWidth separator n (line.drop width)

/-- The bytes of a key in a line. -/
def Key.of (k : Key) (separator : Option UInt8) (line : List UInt8) : List UInt8 :=
  let skipped (rest : List UInt8) : Nat :=
    if k.comparison.trimmed then (rest.takeWhile isBlankByte).length else 0
  let first := fieldsWidth separator (k.field - 1) line
  let start := first + skipped (line.drop first) + (k.character - 1)
  let stop := match k.lastField with
    | none => line.length
    | some g =>
      if k.lastCharacter = 0 then
        let width := fieldsWidth separator g line
        -- The separator behind the field does not belong to it.
        if separator.isSome && fieldsWidth separator g (line ++ [0]) ≤ line.length then width - 1
        else width
      else
        let before := fieldsWidth separator (g - 1) line
        before + skipped (line.drop before) + k.lastCharacter
  (line.take stop).drop start

/-- The number at the start of bytes. -/
def leadingNumber (bytes : List UInt8) : DecimalNumber :=
  let cs := (Text.Utf8.decodeLossy bytes).dropWhile fun c => c == ' ' || c == '\t'
  let (sign, cs) : Int × List Char := match cs with
    | '-' :: rest => (-1, rest)
    | _ => (1, cs)
  let (n, places, _, _) := Quantity.pointed 10 cs
  ⟨sign * n, places⟩

def foldByte (b : UInt8) : UInt8 := if 97 ≤ b && b ≤ 122 then b - 32 else b

def compareBytes (a b : List UInt8) : Ordering := compare (a.map UInt8.toNat) (b.map UInt8.toNat)

/-- The order of two keys. -/
def Comparison.order (c : Comparison) (a b : List UInt8) : Ordering :=
  let (a, b) := if c.trimmed then (a.dropWhile isBlankByte, b.dropWhile isBlankByte) else (a, b)
  let order :=
    if c.numeric then
      let (x, y) := (leadingNumber a, leadingNumber b)
      compare (x.digits * Nat.pow 10 y.places) (y.digits * Nat.pow 10 x.places)
    else if c.folded then compareBytes (a.map foldByte) (b.map foldByte)
    else compareBytes a b
  if c.reversed then order.swap else order

/-- The order of two lines by their keys, or as wholes if there are none. -/
def orderByKeys (separator : Option UInt8) (default : Comparison) (keys : List Key)
    (a b : List UInt8) : Ordering :=
  if keys.isEmpty then default.order a b
  else keys.foldl (fun order k =>
    order.then (k.comparison.order (k.of separator a) (k.of separator b))) .eq

/-! ## Programs -/

def sortOptions : List Known :=
  [flag 'b' "ignore-leading-blanks", flag 'd' "dictionary-order", flag 'f' "ignore-case",
    flag 'g' "general-numeric-sort", flag 'h' "human-numeric-sort", flag 'M' "month-sort",
    flag 'n' "numeric-sort", flag 'r' "reverse", flag 'R' "random-sort", flag 'V' "version-sort",
    flag 'c' "check", flag 'C' "", flag 'm' "merge", flag 's' "stable", flag 'u' "unique",
    flag 'z' "zero-terminated", valued 'k' "key", valued 'o' "output", valued 't' "field-separator",
    valued 'S' "buffer-size", valued 'T' "temporary-directory", flag 'i' "ignore-nonprinting"]

/-- The lines of all files, or the status if one cannot be read. -/
def sortInput : List String → Act (Except Nat (List (List UInt8)))
  | [] => return .ok []
  | path :: paths => do
    match ← contentOf path with
    | .ok bytes => return (← sortInput paths).map (byteLines bytes ++ ·)
    | .error t =>
      let shown := Quotation.asNeeded path
      if path = "-" && !t.opened then fault s!"stat failed: -: {t.reason}"
      else if t.opened then fault s!"read failed: {shown}: {t.reason}"
      else fault s!"cannot read: {shown}: {t.reason}"
      return .error 2

/-- The number of the first line, from the second on, that is out of order. -/
def disorder (inOrder : List UInt8 → List UInt8 → Bool) : Nat → List (List UInt8) →
    Option (Nat × List UInt8)
  | n, a :: b :: rest => if inOrder a b then disorder inOrder (n + 1) (b :: rest) else some (n + 1, b)
  | _, _ => none

def sort : Utility := fun args =>
  withOptions 2 sortOptions args fun o paths => do
    let default := comparisonOf (o.found.map Prod.fst)
    let keyTexts := o.found.filterMap fun (c, v) => if c = 'k' then v else none
    match keyTexts.find? fun k => (key? default k).isNone with
    | some bad =>
      fault s!"invalid field specification {Quotation.quoted bad}"
      return 2
    | none =>
      let keys := keyTexts.filterMap (key? default)
      let separator := (o.value? 't').bind fun t => (Text.Utf8.bytes t).head?
      let byKeys := orderByKeys separator default keys
      let order (a b : List UInt8) : Ordering :=
        if o.has 's' || o.has 'u' then byKeys a b
        else
          let whole := compareBytes a b
          (byKeys a b).then (if default.reversed then whole.swap else whole)
      match ← sortInput (if paths.isEmpty then ["-"] else paths) with
      | .error status => return status
      | .ok ls =>
        if o.has 'c' || o.has 'C' then
          let inOrder (a b : List UInt8) : Bool :=
            if o.has 'u' then order a b == .lt else order a b != .gt
          match disorder inOrder 1 ls with
          | none => return 0
          | some (n, line) =>
            let path := paths.headD "-"
            let shown := String.ofList (Text.Utf8.decodeLossy line)
            if o.has 'c' then fault s!"{path}:{n}: disorder: {shown}"
            return 1
        else
          let ls := ls.mergeSort fun a b => order a b != .gt
          let ls := if o.has 'u' then ls.eraseRepsBy fun a b => order a b == .eq else ls
          let bytes := ls.flatMap (· ++ [0x0A])
          match o.value? 'o' with
          | none =>
            match ← if bytes.isEmpty then pure none else Act.writeTo 1 bytes with
            | none => return 0
            | some r =>
              fault s!"fflush failed: 'standard output': {r.reason}"
              fault "write error"
              return 2
          | some path =>
            match (← Act.files).write ⟨path⟩ bytes with
            | .ok fs =>
              Act.setFiles fs
              return 0
            | .error e =>
              fault s!"open failed: {Quotation.asNeeded path}: {reason e}"
              return 2

/-- Lines that equal each other, each with how many there are. -/
def runs (same : List UInt8 → List UInt8 → Bool) : List (List UInt8) → List (List UInt8 × Nat)
  | [] => []
  | l :: ls =>
    match runs same ls with
    | (m, n) :: rest => if same l m then (l, n + 1) :: rest else (l, 1) :: (m, n) :: rest
    | [] => [(l, 1)]

def uniq : Utility := fun args =>
  withOptions 1 [flag 'c' "count", flag 'd' "repeated", flag 'u' "unique", flag 'i' "ignore-case",
      flag 'D' "all-repeated", valued 'f' "skip-fields", valued 's' "skip-chars",
      valued 'w' "check-chars", flag 'z' "zero-terminated"] args fun o paths => do
    let number (c : Char) : Option Nat := (o.value? c).bind fun v => amount? v.toList
    match paths with
    | _ :: _ :: extra :: _ => extraOperand extra
    | _ =>
      let path := paths.headD "-"
      match ← contentOf path with
      | .error t =>
        if t.opened || path = "-" then
          fault s!"error reading {Quotation.shellQuoted path}: {t.reason}"
        else fault s!"{Quotation.asNeeded path}: {t.reason}"
        return 1
      | .ok bytes =>
        let part (l : List UInt8) : List UInt8 :=
          let l := l.drop (fieldsWidth none ((number 'f').getD 0) l)
          let l := l.drop ((number 's').getD 0)
          let l := l.take ((number 'w').getD l.length)
          if o.has 'i' then l.map foldByte else l
        let groups := runs (fun a b => part a == part b) (byteLines bytes)
        let kept := groups.filter fun (_, n) =>
          if o.has 'd' && o.has 'u' then false
          else if o.has 'd' || o.has 'D' then 1 < n
          else if o.has 'u' then n = 1
          else true
        let out := kept.flatMap fun (l, n) =>
          let ds := Decimal.digits n
          let count := if o.has 'c' then
              Text.Utf8.encode (List.replicate (7 - ds.length) ' ' ++ ds ++ [' '])
            else []
          let copies := if o.has 'D' then n else 1
          (List.replicate copies (count ++ l ++ [0x0A])).flatten
        match paths with
        | [_, target] =>
          match (← Act.files).write ⟨target⟩ out with
          | .ok fs =>
            Act.setFiles fs
            return 0
          | .error e =>
            fault s!"{Quotation.asNeeded target}: {reason e}"
            return 1
        | _ =>
          Act.emit out
          return 0

end BenchSweep.Shell.Utility
