import BenchSweep.Text.Utf8

/-! The output of a command as lines. Bytes come in pieces that end anywhere; a line ends at a line
feed or where the output ends, and loses the carriage returns at its end. -/
set_option autoImplicit false

namespace BenchSweep.Output

def lineFeed : UInt8 := 0x0A

/-- The bytes of a line that has not ended yet, the last one first. -/
abbrev Pending := List UInt8

/-- Takes a piece of output: the lines that it completes and what it leaves open. -/
def feed : Pending → List UInt8 → List (List UInt8) × Pending
  | open_, [] => ([], open_)
  | open_, b :: rest =>
    if b = lineFeed then
      let (lines, last) := feed [] rest
      (open_.reverse :: lines, last)
    else feed (b :: open_) rest

/-- Takes all pieces one after the other. -/
def feedAll : Pending → List (List UInt8) → List (List UInt8) × Pending
  | open_, [] => ([], open_)
  | open_, piece :: rest =>
    let (lines, next) := feed open_ piece
    let (more, last) := feedAll next rest
    (lines ++ more, last)

/-- The lines of the output in bytes. A line that is still open at the end counts if it is not
empty. -/
def byteLines (pieces : List (List UInt8)) : List (List UInt8) :=
  let (lines, last) := feedAll [] pieces
  if last.isEmpty then lines else lines ++ [last.reverse]

/-- The text of a line. -/
def lineText (line : List UInt8) : String :=
  String.ofList ((Text.Utf8.decodeLossy line).reverse.dropWhile (· == '\r')).reverse

/-- The lines of the output. -/
def lines (pieces : List (List UInt8)) : List String := (byteLines pieces).map lineText

end BenchSweep.Output
