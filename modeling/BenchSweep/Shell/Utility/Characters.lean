import BenchSweep.Shell.Utility.Lines
import BenchSweep.Shell.Pattern

/-! Programs that choose, change or show single bytes. -/
set_option autoImplicit false

namespace BenchSweep.Shell.Utility

/-! ## Sets of bytes -/

/-- A set of bytes as `tr` takes it, in order; `classes` tells that it was written with classes. -/
structure ByteSet where
  bytes : List UInt8
  /-- How often the last byte is repeated at most to make the set longer, and where. -/
  stretch : Option (Nat × UInt8)

def byteRange (a b : UInt8) : List UInt8 :=
  (List.range (b.toNat + 1 - a.toNat)).map fun i => UInt8.ofNat (a.toNat + i)

/-- The bytes of a class, in order. -/
def classBytes (name : String) : Option (List UInt8) :=
  (Glob.className name).map fun rs =>
    (byteRange 0 255).filter fun b =>
      rs.any fun (low, high) => Glob.code low ≤ b && b ≤ Glob.code high

/-- What is wrong with a set. -/
inductive SetFault where
  | reversed (text : String)
  | unknownClass (name : String)

def SetFault.message : SetFault → String
  | reversed text => s!"range-endpoints of {Quotation.quoted text} are in reverse collating sequence order"
  | unknownClass name => s!"invalid character class {Quotation.quoted name}"

/-- Bytes, each with whether a backslash stood before it. -/
def unescapedBytes : Nat → List Char → List (UInt8 × Bool)
  | 0, _ => []
  | _ + 1, [] => []
  | n + 1, '\\' :: cs =>
    match Format.escape ⟨false, false, false, false⟩ cs with
    | .bytes [92] after =>
      match after with
      | c :: rest =>
        if cs.head? = some '\\' then (92, true) :: unescapedBytes n after
        else (String.utf8EncodeChar c).map (·, true) ++ unescapedBytes n rest
      | [] => [(92, true)]
    | .bytes bs after => bs.map (·, true) ++ unescapedBytes n after
    | _ => []
  | n + 1, c :: cs => (String.utf8EncodeChar c).map (·, false) ++ unescapedBytes n cs

/-- The set that bytes are. -/
def byteSet : Nat → List (UInt8 × Bool) → Except SetFault ByteSet
  | 0, _ => .ok ⟨[], none⟩
  | _ + 1, [] => .ok ⟨[], none⟩
  | n + 1, b :: bs =>
    let join (here : List UInt8) (rest : List (UInt8 × Bool)) : Except SetFault ByteSet := do
      let more ← byteSet n rest
      return ⟨here ++ more.bytes, more.stretch.map fun (k, c) => (k + here.length, c)⟩
    let bracketed : Option (Except SetFault ByteSet) :=
      if b ≠ (91, false) then none
      else
        match bs with
        | (58, false) :: rest =>
          let name := rest.takeWhile fun c => c ≠ (58, false)
          match rest.drop name.length with
          | _ :: (93, false) :: after =>
            let text := String.ofList (name.map fun c => Char.ofNat c.1.toNat)
            match classBytes text with
            | some here => some (join here after)
            | none => some (.error (.unknownClass text))
          | _ => none
        | c :: (42, false) :: rest =>
          let digits := rest.takeWhile fun d => 48 ≤ d.1 && d.1 ≤ 57
          match rest.drop digits.length with
          | (93, false) :: after =>
            let ds := digits.map fun d => Char.ofNat d.1.toNat
            let count := Arithmetic.ofDigits (if ds.head? = some '0' then 8 else 10) ds
            if count = 0 then
              some ((byteSet n after).map fun more => ⟨more.bytes, some (0, c.1)⟩)
            else some (join (List.replicate count c.1) after)
          | _ => none
        | _ => none
    match bracketed with
    | some found => found
    | none =>
      match bs with
      | (45, false) :: c :: rest =>
        if c.1 < b.1 then
          .error (.reversed (String.ofList [Char.ofNat b.1.toNat, '-', Char.ofNat c.1.toNat]))
        else join (byteRange b.1 c.1) rest
      | _ => join [b.1] bs

def ByteSet.ofText (s : String) : Except SetFault ByteSet :=
  let bs := unescapedBytes (s.length + 1) s.toList
  byteSet (bs.length + 1) bs

/-- The set with its stretch filled up to this length. -/
def ByteSet.filled (s : ByteSet) (length : Nat) : List UInt8 :=
  match s.stretch with
  | none => s.bytes
  | some (at_, c) =>
    s.bytes.take at_ ++ List.replicate (length - s.bytes.length) c ++ s.bytes.drop at_

/-- Runs of a byte of the set made one. -/
def squeeze (inSet : UInt8 → Bool) : List UInt8 → List UInt8
  | [] => []
  | [b] => [b]
  | a :: b :: bs => if a = b && inSet a then squeeze inSet (b :: bs) else a :: squeeze inSet (b :: bs)

/-- What `tr` does with two sets. -/
def translation (o : Options) (taken : List UInt8) (given : Option (List UInt8)) :
    List UInt8 → List UInt8 :=
  let complement := o.has 'c' || o.has 'C'
  let inTaken (b : UInt8) : Bool := taken.contains b != complement
  match o.has 'd', o.has 's', given with
  | true, false, _ => fun bs => bs.filter (!inTaken ·)
  | true, true, some second => fun bs => squeeze second.contains (bs.filter (!inTaken ·))
  | _, true, none => squeeze inTaken
  | _, squeezed, second =>
    let second := second.getD []
    let source := if complement then (byteRange 0 255).filter inTaken else taken
    let source := if o.has 't' then source.take second.length else source
    let last := second.getLastD 32
    let table (b : UInt8) : UInt8 :=
      match source.reverse.idxOf? b with
      | some i => second.getD (source.length - 1 - i) last
      | none => b
    fun bs =>
      let out := bs.map table
      if squeezed then squeeze second.contains out else out

def tr : Utility := fun args => do
  match scanOptions [flag 'c' "complement", flag 'C' "", flag 'd' "delete", flag 's' "squeeze-repeats",
      flag 't' "truncate-set1"] true (args.length + 1) args with
  | .error message => misuse 1 message
  | .ok (found, sets) =>
    let o : Options := ⟨found⟩
    let least := if o.has 'd' == o.has 's' then 2 else 1
    let most := if o.has 'd' && !o.has 's' then 1 else 2
    match sets with
    | [] => missingOperand
    | first :: rest =>
      if sets.length < least then
        fault s!"missing operand after {Quotation.quoted first}"
        Act.complain (if o.has 'd' then
            "Two strings must be given when both deleting and squeezing repeats."
          else "Two strings must be given when translating.")
        advise
        return 1
      else if most < sets.length then
        fault s!"extra operand {Quotation.quoted (sets[most]?.getD first)}"
        if sets.length = 2 then
          Act.complain "Only one string may be given when deleting without squeezing repeats."
        advise
        return 1
      else
        let parsed : Except SetFault (ByteSet × Option ByteSet) := do
          let a ← ByteSet.ofText first
          match rest with
          | [] => return (a, none)
          | b :: _ => return (a, some (← ByteSet.ofText b))
        match parsed with
        | .error e =>
          fault e.message
          return 1
        | .ok (a, b) =>
          let size := if o.has 'c' || o.has 'C' then 256 - a.bytes.eraseDups.length
            else a.bytes.length
          let second := b.map (·.filled size)
          if second = some [] && !o.has 'd' && !o.has 't' then
            fault "when not truncating set1, string2 must be non-empty"
            return 1
          match ← input with
          | .ok bytes =>
            Act.emit (translation o (a.filled a.bytes.length) second bytes)
            return 0
          | .error t =>
            fault s!"read error: {t.reason}"
            return 1

/-! ## Parts of lines -/

/-- The ranges that a list such as `1,3-4` names. -/
def numberRanges (unit : String) (s : String) : Except String (List (Nat × Option Nat)) :=
  (Text.splitWhere (fun c => c == ',' || c == ' ') s.toList).mapM fun cs =>
    let number (cs : List Char) : Except String Nat :=
      if cs.isEmpty || !cs.all Char.isDigit then
        .error s!"invalid {unit} value {Quotation.quoted (String.ofList cs)}"
      else
        match Arithmetic.ofDigits 10 cs with
        | 0 => .error s!"{unit}s are numbered from 1"
        | n => .ok n
    match Text.splitOnce '-' cs with
    | none => (number cs).map fun n => (n, some n)
    | some ([], []) => .error "invalid range with no endpoint: -"
    | some (a, b) => do
      let first ← if a.isEmpty then pure 1 else number a
      let last ← if b.isEmpty then pure none else some <$> number b
      if last.any (· < first) then throw "invalid decreasing range"
      return (first, last)

def cut : Utility := fun args =>
  withOptions 1 [valued 'b' "bytes", valued 'c' "characters", valued 'f' "fields",
      valued 'd' "delimiter", flag 's' "only-delimited", flag 'n' "", flag 'z' "zero-terminated",
      flag 'K' "complement", valued 'O' "output-delimiter"] args fun o paths => do
    match o.last? ['b', 'c', 'f'] with
    | none => misuse 1 "you must specify a list of bytes, characters, or fields"
    | some kind =>
      let unit := if kind = 'f' then "field" else "byte/character position"
      let mark := (Text.Utf8.bytes ((o.value? 'd').getD "\t"))
      if kind = 'f' && 1 < mark.length then misuse 1 "the delimiter must be a single character"
      else if kind ≠ 'f' && (o.value? 'd').isSome then
        misuse 1 "an input delimiter may be specified only when operating on fields"
      else
        match numberRanges unit ((o.value? kind).getD "") with
        | .error message => misuse 1 message
        | .ok ranges =>
          let chosen (i : Nat) : Bool :=
            (ranges.any fun (a, b) => a ≤ i + 1 && b.all fun b => i + 1 ≤ b) != o.has 'K'
          let d := mark.headD 0
          let between := match o.value? 'O' with
            | some s => Text.Utf8.bytes s
            | none => [d]
          let paths := if paths.isEmpty then ["-"] else paths
          let status ← eachContent unreadable paths fun _ bytes => do
            (byteLines bytes).forM fun line => do
              if kind ≠ 'f' then
                Act.emit ((line.zipIdx.filter fun (_, i) => chosen i).map Prod.fst ++ [0x0A])
              else if !line.contains d then
                if !o.has 's' then Act.emit (line ++ [0x0A])
              else
                let parts := (Text.splitWhere (· == d) line).zipIdx.filter fun (_, i) => chosen i
                Act.emit (between.intercalate (parts.map Prod.fst) ++ [0x0A])
            return 0
          leavingInput paths "-"
          return status

/-! ## Bytes as numbers -/

/-- How bytes are shown in groups of so many. -/
structure DumpFormat where
  size : Nat
  width : Nat
  text : List UInt8 → String

/-- The number that bytes are, the lowest first. -/
def littleEndian (bs : List UInt8) : Nat := bs.foldr (fun b n => n * 256 + b.toNat) 0

/-- Digits of a number in this base, filled up with zeros. -/
def dumpDigits (base width n : Nat) : String :=
  let ds := Nat.toDigits base n
  String.ofList (List.replicate (width - ds.length) '0' ++ ds)

/-- A byte as a character or its escape. -/
def dumpCharacter (b : UInt8) : String :=
  if b = 0 then "\\0"
  else if 7 ≤ b && b ≤ 13 then String.ofList ('\\' :: Quotation.escape b)
  else if Quotation.isPrintable b then (Char.ofNat b.toNat).toString
  else dumpDigits 8 3 b.toNat

def signedNumber (size : Nat) (bs : List UInt8) : Int :=
  let n := littleEndian bs
  if Nat.pow 2 (8 * size - 1) ≤ n then (n : Int) - Nat.pow 2 (8 * size) else n

/-- The format that a type such as `x1` names. -/
def dumpFormat? (cs : List Char) : Option DumpFormat :=
  match cs with
  | ['c'] => some ⟨1, 3, fun bs => dumpCharacter (bs.headD 0)⟩
  | kind :: sizeText =>
    let size := match sizeText with
      | [] => some 4
      | ['1'] => some 1
      | ['2'] => some 2
      | ['4'] => some 4
      | ['8'] => some 8
      | ['C'] => some 1
      | ['S'] => some 2
      | ['I'] => some 4
      | ['L'] => some 8
      | _ => none
    let digits (base width : Nat) (size : Nat) : DumpFormat :=
      ⟨size, width, fun bs => dumpDigits base width (littleEndian bs)⟩
    size.bind fun size =>
      match kind with
      | 'x' => some (digits 16 (2 * size) size)
      | 'o' => some (digits 8 ((8 * size + 2) / 3) size)
      | 'u' => some ⟨size, (Decimal.digits (Nat.pow 2 (8 * size) - 1)).length,
          fun bs => String.ofList (Decimal.digits (littleEndian bs))⟩
      | 'd' => some ⟨size, (Decimal.digits (Nat.pow 2 (8 * size - 1))).length + 1,
          fun bs => String.ofList (Decimal.integer (signedNumber size bs))⟩
      | _ => none
  | [] => none

/-- Lists cut into pieces of this length. -/
def chunked {α : Type} (size : Nat) : Nat → List α → List (List α)
  | 0, _ => []
  | _ + 1, [] => []
  | n + 1, as => as.take size :: chunked size n (as.drop size)

def dumpLine (f : DumpFormat) (bs : List UInt8) : String :=
  String.join ((chunked f.size (bs.length + 1) bs).map fun group =>
    let text := f.text group
    " " ++ String.ofList (List.replicate (f.width - text.length) ' ') ++ text)

def od : Utility := fun args =>
  withOptions 1 [valued 'A' "address-radix", valued 't' "format", valued 'N' "read-bytes",
      valued 'j' "skip-bytes", flag 'v' "output-duplicates", flag 'c' "", flag 'b' "", flag 'x' "",
      flag 'd' "", flag 'o' "", valued 'w' "width"] args fun o paths => do
    let paths := if paths.isEmpty then ["-"] else paths
    let (status, opened, bytes) ← paths.foldlM (fun (status, opened, bytes) path => do
      match ← contentOf path with
      | .ok more => return (status, true, bytes ++ more)
      | .error t =>
        let shown := if path = "-" then "'standard input'" else Quotation.asNeeded path
        fault s!"{shown}: {t.reason}"
        return (1, opened || t.opened || path = "-", bytes)) ((0, false, []) : Nat × Bool × List UInt8)
    let number (c : Char) : Option Nat := (o.value? c).bind fun v => amount? v.toList
    let bytes := bytes.drop ((number 'j').getD 0)
    let bytes := bytes.take ((number 'N').getD bytes.length)
    let formats := o.found.filterMap fun (c, v) =>
      match c with
      | 't' => dumpFormat? ((v.getD "").toList.filter (· ≠ 'z'))
      | 'c' => dumpFormat? ['c']
      | 'b' => dumpFormat? ['o', '1']
      | 'x' => dumpFormat? ['x', '2']
      | 'd' => dumpFormat? ['u', '2']
      | 'o' => dumpFormat? ['o', '2']
      | _ => none
    let formats := if formats.isEmpty then (dumpFormat? ['o', '2']).toList else formats
    let address (n : Nat) : String :=
      match o.value? 'A' with
      | some "n" => ""
      | some "d" => dumpDigits 10 7 n
      | some "x" => dumpDigits 16 6 n
      | _ => dumpDigits 8 7 n
    let start := (number 'j').getD 0
    let rows := chunked 16 (bytes.length + 1) bytes
    let _ ← rows.zipIdx.foldlM (fun (last : Option (List UInt8) × Bool) (row, i) => do
      if last.1 = some row && row.length = 16 && !o.has 'v' then
        if !last.2 then emitLine "*"
        return (some row, true)
      else
        formats.zipIdx.forM fun (f, k) => do
          let front := if k = 0 then address (start + 16 * i)
            else String.ofList (List.replicate (address 0).length ' ')
          emitLine (front ++ dumpLine f row)
        return (some row, false)) (none, false)
    if opened && o.value? 'A' ≠ some "n" then emitLine (address (start + bytes.length))
    leavingInput paths "standard input"
    return status

end BenchSweep.Shell.Utility
