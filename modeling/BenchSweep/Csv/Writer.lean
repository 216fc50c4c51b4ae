import BenchSweep.Csv.Mark
import BenchSweep.Failure
import BenchSweep.Text.Utf8

/-! Tables of comma-separated values as they are written. A field stands between quotes if it holds a
byte that means something to a reader; a record that would leave its line empty is written as an
empty field between quotes. -/
set_option autoImplicit false

namespace BenchSweep.Csv

/-- Whether a reader would take the bare field for something else. -/
def needsQuotes (field : Field) : Bool := field.any fun b => b == comma || b == quote || isEnd b

/-- The field between quotes, the quotes in it doubled. -/
def quoteField (field : Field) : Field :=
  quote :: field.flatMap (fun b => if b = quote then [quote, quote] else [b]) ++ [quote]

def writeField (field : Field) : Field := if needsQuotes field then quoteField field else field

/-- The fields of a record with commas between them. -/
def writeFields (record : Record) : List UInt8 := [comma].intercalate (record.map writeField)

/-- The line of a record. -/
def writeRecord (record : Record) : List UInt8 :=
  match writeFields record with
  | [] => [quote, quote, lineFeed]
  | bytes => bytes ++ [lineFeed]

/-- The line of a record of texts, which must have `width` fields. -/
def writeTexts (width : Nat) (record : List String) : Except TableFault (List UInt8) :=
  if record.length = width then .ok (writeRecord (record.map Text.Utf8.bytes))
  else .error (.unequalLengths none width record.length)

/-- The lines of a table. All records have as many fields as the first one. -/
def write (records : List (List String)) : Except TableFault (List UInt8) :=
  let width := (records.head?.map List.length).getD 0
  (records.mapM (writeTexts width)).map List.flatten

end BenchSweep.Csv
