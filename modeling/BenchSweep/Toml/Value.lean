import BenchSweep.Binary64

/-! The data of a TOML document, and the growth of its tables. A table is built from key paths:
tables named by a path that does not end with them are implicit and may be filled in later, those
made by a dotted key only by dotted keys. -/
set_option autoImplicit false

namespace BenchSweep.Toml

inductive Value where
  | text (value : String)
  | integer (value : Int64)
  | float (value : Binary64)
  | bool (value : Bool)
  /-- A date, a time or both, in the spelling of RFC 3339. -/
  | moment (value : String)
  | array (items : List Value)
  | table (entries : List (String × Value))

/-- What a key stands for while a document is read. -/
inductive Node where
  | leaf (value : Value)
  | table (implicit dotted : Bool) (entries : List (String × Node))
  | tables (rows : List (List (String × Node)))

abbrev Entries := List (String × Node)

namespace Entries

def get? (es : Entries) (key : String) : Option Node := es.lookup key

/-- Replaces the entry of `key`, or adds one at the end. -/
def set (es : Entries) (key : String) (node : Node) : Entries :=
  match es with
  | [] => [(key, node)]
  | (k, n) :: rest => if k = key then (k, node) :: rest else (k, n) :: set rest key node

def remove (es : Entries) (key : String) : Entries := es.filter (·.1 ≠ key)

/-- Runs `f` on the table at the end of `path`, with the word whether dotted keys made it. Tables
that are missing on the way are made; `dotted` tells that the path is one of a dotted key. The last
row stands for an array of tables. -/
def descend {α : Type} (dotted : Bool) (f : Bool → Entries → Option (Entries × α)) :
    List String → Bool → Entries → Option (Entries × α)
  | [], here, es => f here es
  | key :: path, _, es =>
    match get? es key with
    | none => do
      let (sub, a) ← descend dotted f path dotted []
      return (es ++ [(key, .table true dotted sub)], a)
    | some (.leaf _) => none
    | some (.table implicit wasDotted sub) =>
      if dotted && !implicit then none
      else do
        let (sub, a) ← descend dotted f path wasDotted sub
        return (set es key (.table implicit wasDotted sub), a)
    | some (.tables rows) => do
      let (last, a) ← descend dotted f path false (rows.getLast?.getD [])
      return (set es key (.tables (rows.dropLast ++ [last])), a)

/-- Adds a value below a dotted key. The key must be new, and the tables on the way must not have a
header of their own. -/
def addPair (es : Entries) (path : List String) (key : String) (value : Value) : Option Entries :=
  (descend true (fun here es =>
    if here == path.isEmpty || (get? es key).isSome then none
    else some (es ++ [(key, .leaf value)], ())) path false es).map Prod.fst

end Entries

/-! ## From nodes to values -/

mutual

def Node.toValue : Node → Value
  | .leaf v => v
  | .table _ _ es => .table (entriesToValues es)
  | .tables rows => .array (rowsToValues rows)

def entriesToValues : List (String × Node) → List (String × Value)
  | [] => []
  | (key, n) :: rest => (key, n.toValue) :: entriesToValues rest

def rowsToValues : List (List (String × Node)) → List Value
  | [] => []
  | es :: rest => .table (entriesToValues es) :: rowsToValues rest

end

/-- The table between braces that these pairs make. -/
def inlineTable (pairs : List (List String × String × Value)) : Option Value :=
  (pairs.foldlM (fun es (path, key, v) => Entries.addPair es path key v) []).map fun es =>
    .table (entriesToValues es)

/-! ## Documents -/

/-- A line of a document that says something. -/
inductive Statement where
  | pair (path : List String) (key : String) (value : Value)
  /-- The header of a table. -/
  | header (path : List String) (key : String)
  /-- The header of a row of an array of tables. -/
  | row (path : List String) (key : String)

/-- A document of which some statements are read: all tables but the one that the last header
opened, which is kept apart with its place. -/
structure Draft where
  root : Entries
  opened : Option (Bool × List String × String)
  current : Entries

namespace Draft

def empty : Draft := ⟨[], none, []⟩

/-- Puts the open table into its place. -/
def close (d : Draft) : Option Entries :=
  match d.opened with
  | none => some d.current
  | some (isRow, path, key) =>
    (Entries.descend false (fun _ es =>
      match Entries.get? es key with
      | some (.tables rows) =>
        if isRow then some (Entries.set es key (.tables (rows ++ [d.current])), ()) else none
      | some (.table true _ _) =>
        if isRow then none else some (Entries.set es key (.table false false d.current), ())
      | some _ => none
      | none =>
        some (es ++ [(key, if isRow then .tables [d.current] else .table false false d.current)],
          ())) path false d.root).map Prod.fst

/-- Opens the table of a header. A table that a longer header named before is taken out of its place
and goes on, to be put back at the end. -/
def openTable (root : Entries) (path : List String) (key : String) : Option Draft :=
  (Entries.descend false (fun _ es =>
    match Entries.get? es key with
    | none => some (es, [])
    | some (.table true false sub) => some (Entries.remove es key, sub)
    | some _ => none) path false root).map fun (root, sub) => ⟨root, some (false, path, key), sub⟩

/-- Opens a row. The array of tables keeps the place of its first row. -/
def openRow (root : Entries) (path : List String) (key : String) : Option Draft :=
  (Entries.descend false (fun _ es =>
    match Entries.get? es key with
    | none => some (es ++ [(key, .tables [])], ())
    | some (.tables _) => some (es, ())
    | some _ => none) path false root).map fun (root, _) => ⟨root, some (true, path, key), []⟩

def step (d : Draft) : Statement → Option Draft
  | .pair path key v => (Entries.addPair d.current path key v).map fun es => { d with current := es }
  | .header path key => d.close.bind fun root => openTable root path key
  | .row path key => d.close.bind fun root => openRow root path key

end Draft

/-- The table that a document with these statements holds. -/
def documentTable (statements : List Statement) : Option (List (String × Value)) := do
  let d ← statements.foldlM Draft.step Draft.empty
  return entriesToValues (← d.close)

end BenchSweep.Toml
