import BenchSweep.Failure
import BenchSweep.OrderedMap
import BenchSweep.Path
import BenchSweep.Text.Utf8

/-! A tree of files without links. Every node is known by its location, the names that lead to it
from the root, so that a write changes one location and no other. Paths are looked up from the
directory in which the program works. -/
set_option autoImplicit false

namespace BenchSweep

/-- The names that lead to a node from the root. -/
abbrev Location := List String

inductive Node where
  | directory
  | file (content : List UInt8)
  /-- An executable of the host, known by its name. -/
  | program (name : String)
deriving DecidableEq

structure Files where
  nodes : OrderedMap Location Node
  /-- The working directory. -/
  here : Location
deriving DecidableEq

namespace Files

def node? (fs : Files) (place : Location) : Option Node :=
  if place = [] then some .directory else fs.nodes.get? place

def put (fs : Files) (place : Location) (node : Node) : Files :=
  { fs with nodes := fs.nodes.insert place node }

/-- The files without the node at `place` and all nodes below it. -/
def remove (fs : Files) (place : Location) : Files :=
  { fs with nodes := (fs.nodes.keys.filter place.isPrefixOf).foldl OrderedMap.erase fs.nodes }

/-- The same files, seen from another directory. -/
def within (fs : Files) (place : Location) : Files := { fs with here := place }

theorem node?_put (fs : Files) (place other : Location) (node : Node) (h : other ≠ place) :
    (fs.put place node).node? other = fs.node? other := by
  simp [node?, put, OrderedMap.get?_insert, h]

theorem node?_put_self (fs : Files) (place : Location) (node : Node) (h : place ≠ []) :
    (fs.put place node).node? place = some node := by
  simp [node?, put, OrderedMap.get?_insert, h]

/-! ## Looking up -/

/-- A name has at most this many bytes. -/
def nameLimit : Nat := 255

/-- A path has less than this many bytes. -/
def pathLimit : Nat := 4096

/-- The location that `part` names in the directory at `place`. -/
def enter (fs : Files) (place : Location) (part : String) : Except HostFault Location :=
  match fs.node? place with
  | none => .error .notFound
  | some .directory =>
    if part = "." then .ok place
    else if part = ".." then .ok place.dropLast
    else if nameLimit < part.utf8ByteSize then .error .nameTooLong
    else .ok (place ++ [part])
  | some _ => .error .notADirectory

/-- The fault of a path that leads nowhere, whatever the files are. -/
def pathFault? (p : Path) : Option HostFault :=
  if p.text.toList.contains '\x00' then some .nulInPath
  else if p.text = "" then some .notFound
  else if pathLimit ≤ p.text.utf8ByteSize then some .nameTooLong
  else none

/-- Where paths start. -/
def start (fs : Files) (p : Path) : Location := if p.isRooted then [] else fs.here

/-- The location that a path names; a node need not be there. -/
def locate (fs : Files) (p : Path) : Except HostFault Location :=
  match pathFault? p with
  | some fault => .error fault
  | none => p.parts.foldlM fs.enter (fs.start p)

/-- The location of the node that a path leads to, and the node. -/
def find (fs : Files) (p : Path) : Except HostFault (Location × Node) := do
  let place ← fs.locate p
  match fs.node? place with
  | none => .error .notFound
  | some node => if p.endsWithSlash && node ≠ .directory then .error .notADirectory else .ok (place, node)

/-- The node that a path leads to. -/
def look (fs : Files) (p : Path) : Except HostFault Node := (fs.find p).map Prod.snd

def has (fs : Files) (p : Path) : Bool := (fs.look p).isOk

def isDirectory (fs : Files) (p : Path) : Bool :=
  match fs.look p with
  | .ok .directory => true
  | _ => false

def isFile (fs : Files) (p : Path) : Bool :=
  match fs.look p with
  | .ok .directory => false
  | .ok _ => true
  | .error _ => false

/-! ## Contents -/

/-- The bytes of a node. -/
def Node.bytes : Node → Except HostFault (List UInt8)
  | .directory => .error .isADirectory
  | .file content => .ok content
  | .program _ => .error .permissionDenied

/-- The text of a node. -/
def Node.text (n : Node) : Except HostFault String := do
  match Text.Utf8.decode? (← Node.bytes n) with
  | some s => .ok (String.ofList s)
  | none => .error .notUtf8

def readBytes (fs : Files) (p : Path) : Except HostFault (List UInt8) := (fs.look p).bind Node.bytes

def readText (fs : Files) (p : Path) : Except HostFault String := (fs.look p).bind Node.text

/-- The location at which a file of this path can be written. -/
def writable (fs : Files) (p : Path) : Except HostFault Location := do
  let place ← fs.locate p
  if p.endsWithSlash then .error .isADirectory
  else
    match fs.node? place with
    | some .directory => .error .isADirectory
    | some (.program _) => .error .permissionDenied
    | _ => .ok place

/-- The files with `content` as the whole file at `p`. -/
def write (fs : Files) (p : Path) (content : List UInt8) : Except HostFault Files :=
  (fs.writable p).map fun place => fs.put place (.file content)

/-! ## Directories -/

/-- Makes the directories along `parts`, as far as none stands in the way. -/
def makeDirectoriesFrom : List String → Location → Files → Files × Option HostFault
  | [], _, fs => (fs, none)
  | part :: rest, place, fs =>
    match fs.enter place part with
    | .error fault => (fs, some fault)
    | .ok next =>
      match fs.node? next with
      | some .directory => makeDirectoriesFrom rest next fs
      | some _ => (fs, some (if rest.isEmpty then .alreadyExists else .notADirectory))
      | none => makeDirectoriesFrom rest next (fs.put next .directory)

/-- The files with all directories along the path, and what stands in the way. -/
def makeDirectories (fs : Files) (p : Path) : Files × Option HostFault :=
  match pathFault? p with
  | some fault => if p.text = "" then (fs, none) else (fs, some fault)
  | none => makeDirectoriesFrom p.parts (fs.start p) fs

/-! ## Walks -/

/-- A node found on a walk and the path that shows it. -/
structure Entry where
  path : Path
  node : Node
deriving DecidableEq

/-- The name of an entry, or its path if that has no last name. -/
def Entry.name (e : Entry) : String := e.path.fileName?.getD e.path.text

/-- The nodes below `place` with the names that lead to them from there, in the order of those
names. -/
def below (fs : Files) (place : Location) : List (List String × Node) :=
  ((fs.nodes.entries.filter fun (l, _) => place.isPrefixOf l && l ≠ place).map fun (l, node) =>
    (l.drop place.length, node)).mergeSort fun a b =>
      !List.lex b.1 a.1 fun x y => decide (x < y)

/-- The node that the path leads to and all nodes below it, in the order of their paths. A path that
leads nowhere gives none. -/
def walk (fs : Files) (p : Path) : List Entry :=
  match fs.find p with
  | .error _ => []
  | .ok (place, .directory) =>
    ⟨p, .directory⟩ :: (fs.below place).map fun (names, node) => ⟨names.foldl Path.child p, node⟩
  | .ok (_, node) => [⟨p, node⟩]

end Files

end BenchSweep
