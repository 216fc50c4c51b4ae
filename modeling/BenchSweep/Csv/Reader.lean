import BenchSweep.Csv.Mark
import BenchSweep.Failure
import BenchSweep.Text.Utf8

/-! Tables of comma-separated values as they are read. A line feed or a carriage return ends a record,
empty lines are none, and quotes count only at the start of a field. -/
set_option autoImplicit false

namespace BenchSweep.Csv

/-- Where reading stands: before a record or a field, inside a field with or without quotes, or right
behind a quote that may close its field. -/
inductive Place where
  | record
  | field
  | plain
  | quoted
  | closing
deriving DecidableEq

/-- The record that is being read, its last field and the last byte of that first. -/
structure Draft where
  place : Place
  field : Field
  fields : Record
deriving DecidableEq

namespace Draft

def empty : Draft := ⟨.record, [], []⟩

/-- The record with its last field ended. -/
def record (d : Draft) : Record := (d.field.reverse :: d.fields).reverse

def push (d : Draft) (place : Place) (b : UInt8) : Draft := ⟨place, b :: d.field, d.fields⟩

/-- Takes a byte outside quotes. -/
def stepPlain (d : Draft) (b : UInt8) : Draft × Option Record :=
  if b = comma then (⟨.field, [], d.field.reverse :: d.fields⟩, none)
  else if isEnd b then (empty, some d.record)
  else (d.push .plain b, none)

/-- Takes the first byte of a field. -/
def stepField (d : Draft) (b : UInt8) : Draft × Option Record :=
  if b = quote then ({ d with place := .quoted }, none) else d.stepPlain b

/-- Takes a byte, which may complete the record. -/
def step (d : Draft) (b : UInt8) : Draft × Option Record :=
  match d.place with
  | .record => if isEnd b then (d, none) else d.stepField b
  | .field => d.stepField b
  | .plain => d.stepPlain b
  | .quoted => if b = quote then ({ d with place := .closing }, none) else (d.push .quoted b, none)
  | .closing => if b = quote then (d.push .quoted b, none) else d.stepPlain b

/-- The record that the end of the bytes completes. -/
def finish (d : Draft) : Option Record := if d.place = .record then none else some d.record

end Draft

/-- What each byte completes, and last what the end completes. -/
def outcomes : Draft → List UInt8 → List (Option Record)
  | d, [] => [d.finish]
  | d, b :: rest => (d.step b).2 :: outcomes (d.step b).1 rest

/-- The records of a table. -/
def records (bytes : List UInt8) : List Record := (outcomes Draft.empty bytes).filterMap id

/-! ## Positions -/

/-- How many bytes complete the first `n` records. -/
def bytesBefore : Nat → List (Option Record) → Nat
  | 0, _ => 0
  | _ + 1, [] => 0
  | n + 1, some _ :: rest => bytesBefore n rest + 1
  | n + 1, none :: rest => bytesBefore (n + 1) rest + 1

/-- The mark that may open a text. -/
def byteOrderMark : List UInt8 := [0xEF, 0xBB, 0xBF]

/-- The bytes behind an opening mark. -/
def content (bytes : List UInt8) : List UInt8 :=
  if byteOrderMark.isPrefixOf bytes then bytes.drop 3 else bytes

/-- Where record `n` of the bytes begins. -/
def position (bytes : List UInt8) (n : Nat) : Position :=
  if n = 0 then ⟨0, 1, 0⟩
  else
    let before := bytesBefore n (outcomes Draft.empty (content bytes))
    let mark := bytes.length - (content bytes).length
    ⟨n, 1 + ((content bytes).take before).count lineFeed, mark + before⟩

/-! ## Texts -/

/-- How many bytes at the start of a field are text. -/
def validLength (field : Field) : Nat :=
  ((Text.Utf8.scan field).takeWhile Option.isSome).foldl (fun n c =>
    n + (c.map Char.utf8Size).getD 0) 0

/-- The texts of a record, or the first field that is no text and how many of its bytes are. -/
def decodeRecord (r : Record) : Except (Nat × Nat) (List String) :=
  r.zipIdx.mapM fun (field, i) =>
    match Text.Utf8.decode? field with
    | some s => .ok (String.ofList s)
    | none => .error (i, validLength field)

/-- The texts of record `n`, which must have `width` fields. -/
def readRecord (bytes : List UInt8) (width : Nat) (r : Record) (n : Nat) :
    Except TableFault (List String) :=
  if r.length ≠ width then .error (.unequalLengths (some (position bytes n)) width r.length)
  else
    match decodeRecord r with
    | .ok texts => .ok texts
    | .error (field, valid) => .error (.notUtf8 (position bytes n) field valid)

/-- The first record of a table and the others, all of one length. The first fault in the order of
the records counts, of two in one record that of its length. -/
def read (bytes : List UInt8) : Except TableFault (List String × List (List String)) :=
  match records (content bytes) with
  | [] => .ok ([], [])
  | header :: rest => do
    let names ← readRecord bytes header.length header 0
    let rows ← (rest.zipIdx 1).mapM fun (r, n) => readRecord bytes header.length r n
    return (names, rows)

end BenchSweep.Csv
