import BenchSweep.Toml.Lexeme

/-! TOML documents read from text: values with arrays and inline tables, then the statements of a
document line by line. -/
set_option autoImplicit false

namespace BenchSweep.Toml

/-- Without the spaces, comments and line ends at the start; `inComment` tells that a comment is
open, which only characters that may stand in one can continue. -/
def skipBlanks? (inComment : Bool) : List Char → Option (List Char)
  | '\n' :: rest => skipBlanks? false rest
  | '\r' :: '\n' :: rest => skipBlanks? false rest
  | c :: rest =>
    if inComment then if isPlain c then skipBlanks? true rest else none
    else if isSpace c then skipBlanks? false rest
    else if c = '#' then skipBlanks? true rest
    else some (c :: rest)
  | [] => some []

/-- Without the spaces and the comment behind a statement and the end of its line. -/
def lineEnd? (inComment : Bool) : List Char → Option (List Char)
  | [] => some []
  | '\n' :: rest => some rest
  | '\r' :: '\n' :: rest => some rest
  | c :: rest =>
    if inComment then if isPlain c then lineEnd? true rest else none
    else if isSpace c then lineEnd? false rest
    else if c = '#' then lineEnd? true rest
    else none

/-! ## Values -/

/-- The items of an array up to its closing bracket. -/
def items? (item : List Char → Option (Value × List Char)) :
    Nat → List Char → Option (List Value × List Char)
  | 0, _ => none
  | fuel + 1, s => do
    match ← skipBlanks? false s with
    | ']' :: rest => return ([], rest)
    | s =>
      let (v, rest) ← item s
      match ← skipBlanks? false rest with
      | ',' :: rest =>
        let (vs, rest) ← items? item fuel rest
        return (v :: vs, rest)
      | ']' :: rest => return ([v], rest)
      | _ => none

/-- A key, an equals sign and a value. -/
def pair? (item : List Char → Option (Value × List Char)) (s : List Char) :
    Option ((List String × String × Value) × List Char) := do
  let (path, key, rest) ← keyPath? s
  match rest with
  | '=' :: rest =>
    let (v, rest) ← item (skipSpaces rest)
    return ((path, key, v), rest)
  | _ => none

/-- The pairs of an inline table up to its closing brace; at least one. -/
def pairs? (item : List Char → Option (Value × List Char)) :
    Nat → List Char → Option (List (List String × String × Value) × List Char)
  | 0, _ => none
  | fuel + 1, s => do
    let (p, rest) ← pair? item s
    match skipSpaces rest with
    | ',' :: rest =>
      let (ps, rest) ← pairs? item fuel rest
      return (p :: ps, rest)
    | '\x7d' :: rest => return ([p], rest)
    | _ => none

/-- A value at the start of the text, with at most `level` containers inside each other. -/
def value? : Nat → List Char → Option (Value × List Char)
  | level, '[' :: rest =>
    match level with
    | 0 => none
    | level + 1 => do
      let (vs, rest) ← items? (value? level) (rest.length + 1) rest
      return (.array vs, rest)
  | level, '\x7b' :: rest =>
    match level with
    | 0 => none
    | level + 1 =>
      match skipSpaces rest with
      | '\x7d' :: rest => some (.table [], rest)
      | rest => do
        let (ps, rest) ← pairs? (value? level) (rest.length + 1) rest
        return (← inlineTable ps, rest)
  | _, '"' :: rest => (string? ('"' :: rest)).map fun (s, rest) => (.text (String.ofList s), rest)
  | _, '\'' :: rest => (string? ('\'' :: rest)).map fun (s, rest) => (.text (String.ofList s), rest)
  | _, s =>
    let (word, rest) := takeWord s
    (word? word).map (·, rest)

/-! ## Statements -/

/-- One statement and the text behind the end of its line. -/
def statement? : List Char → Option (Statement × List Char)
  | '[' :: '[' :: rest => do
    let (path, key, rest) ← keyPath? rest
    match rest with
    | ']' :: ']' :: rest => return (.row path key, ← lineEnd? false rest)
    | _ => none
  | '[' :: rest => do
    let (path, key, rest) ← keyPath? rest
    match rest with
    | ']' :: rest => return (.header path key, ← lineEnd? false rest)
    | _ => none
  | s => do
    let ((path, key, v), rest) ← pair? (value? (depthLimit - 1)) s
    return (.pair path key v, ← lineEnd? false rest)

/-- The statements of the text, in order. -/
def statements? : Nat → List Char → Option (List Statement)
  | 0, _ => none
  | fuel + 1, s => do
    match ← skipBlanks? false s with
    | [] => return []
    | s =>
      let (first, rest) ← statement? s
      return first :: (← statements? fuel rest)

/-- Without a byte order mark at the start. -/
def skipMark : List Char → List Char
  | '\uFEFF' :: rest => rest
  | s => s

/-- The table that a document holds, if its text is TOML. -/
def parse? (text : String) : Option (List (String × Value)) :=
  let s := skipMark text.toList
  (statements? (s.length + 1) s).bind documentTable

end BenchSweep.Toml
