/-! Trees of texts written as JSON, two blanks to a level. -/
set_option autoImplicit false

namespace BenchSweep.CommandLine

inductive Json where
  | text (s : String)
  | list (items : List Json)
  | record (fields : List (String × Json))

namespace Json

def hexDigit (n : Nat) : Char := if n < 10 then Char.ofNat (48 + n) else Char.ofNat (87 + n)

/-- A character in a text. Quotes, backslashes and control characters are escaped. -/
def escape (c : Char) : List Char :=
  match c with
  | '"' => ['\\', '"']
  | '\\' => ['\\', '\\']
  | '\x08' => ['\\', 'b']
  | '\x0c' => ['\\', 'f']
  | '\n' => ['\\', 'n']
  | '\r' => ['\\', 'r']
  | '\t' => ['\\', 't']
  | c =>
    if c.toNat < 0x20 then ['\\', 'u', '0', '0', hexDigit (c.toNat / 16), hexDigit (c.toNat % 16)]
    else [c]

def quoted (s : String) : String := "\"" ++ String.ofList (s.toList.flatMap escape) ++ "\""

def indent (depth : Nat) : String := String.ofList (List.replicate (2 * depth) ' ')

/-- Elements between brackets, each on a line of its own. -/
def enclose (first last : String) (depth : Nat) (elements : List String) : String :=
  if elements.isEmpty then first ++ last
  else
    let body := elements.map fun e => indent (depth + 1) ++ e
    first ++ "\n" ++ ",\n".intercalate body ++ "\n" ++ indent depth ++ last

mutual

def write (depth : Nat) : Json → String
  | .text s => quoted s
  | .list items => enclose "[" "]" depth (writeItems (depth + 1) items)
  | .record fields => enclose "\x7b" "\x7d" depth (writeFields (depth + 1) fields)

def writeItems (depth : Nat) : List Json → List String
  | [] => []
  | item :: items => write depth item :: writeItems depth items

def writeFields (depth : Nat) : List (String × Json) → List String
  | [] => []
  | (name, value) :: fields =>
    (quoted name ++ ": " ++ write depth value) :: writeFields depth fields

end

end Json

end BenchSweep.CommandLine
