import BenchSweep.Text.BinaryProperty
import BenchSweep.Text.CaseFold

/-! Classes of characters that patterns have letters or short names for. A class is a set of code
points, surrogates left out. -/
set_option autoImplicit false

namespace BenchSweep.Regex

abbrev CharClass := Text.CodePoints

namespace CharClass

open Text

/-- The characters from `low` to `high`. -/
def between (low high : Char) : CharClass := .range low.toNat high.toNat ∩ .scalars

def ofRanges (rs : List (Char × Char)) : CharClass := .unions (rs.map fun r => between r.1 r.2)

/-- Every character of ASCII. -/
def ascii : CharClass := .range 0 0x7F

def asciiDigits : CharClass := between '0' '9'

def asciiSpaces : CharClass := ofRanges [('\t', '\r'), (' ', ' ')]

def asciiWord : CharClass := ofRanges [('0', '9'), ('A', 'Z'), ('_', '_'), ('a', 'z')]

def digits : CharClass := GeneralCategory.decimalNumber

def spaces : CharClass := BinaryProperty.whiteSpace

/-- Letters, marks, decimal digits, connecting punctuation and the two joiners of zero width. -/
def word : CharClass :=
  .unions [BinaryProperty.alphabetic, GeneralCategory.marks, GeneralCategory.decimalNumber,
    GeneralCategory.connectorPunctuation, BinaryProperty.joinControl]

/-- The classes with names between colons. -/
def named? (name : String) : Option CharClass :=
  match name with
  | "alnum" => some (ofRanges [('0', '9'), ('A', 'Z'), ('a', 'z')])
  | "alpha" => some (ofRanges [('A', 'Z'), ('a', 'z')])
  | "ascii" => some ascii
  | "blank" => some (ofRanges [('\t', '\t'), (' ', ' ')])
  | "cntrl" => some (ofRanges [('\x00', '\x1f'), ('\x7f', '\x7f')])
  | "digit" => some asciiDigits
  | "graph" => some (between '!' '~')
  | "lower" => some (between 'a' 'z')
  | "print" => some (between ' ' '~')
  | "punct" => some (ofRanges [('!', '/'), (':', '@'), ('[', '\x60'), ('\x7b', '~')])
  | "space" => some asciiSpaces
  | "upper" => some (between 'A' 'Z')
  | "word" => some asciiWord
  | "xdigit" => some (ofRanges [('0', '9'), ('A', 'F'), ('a', 'f')])
  | _ => none

end CharClass

end BenchSweep.Regex
