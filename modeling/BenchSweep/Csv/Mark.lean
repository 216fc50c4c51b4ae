/-! The bytes that structure a table of comma-separated values. -/
set_option autoImplicit false

namespace BenchSweep.Csv

def comma : UInt8 := 0x2C

def quote : UInt8 := 0x22

def lineFeed : UInt8 := 0x0A

def carriageReturn : UInt8 := 0x0D

/-- Whether the byte ends a record outside quotes. -/
def isEnd (b : UInt8) : Bool := b == lineFeed || b == carriageReturn

/-- The bytes of a field, and the fields of a record. -/
abbrev Field := List UInt8

abbrev Record := List Field

end BenchSweep.Csv
