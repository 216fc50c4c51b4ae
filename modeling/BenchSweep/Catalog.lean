import BenchSweep.Toml.Decode
import BenchSweep.World

/-! The definitions in a directory, one in each file with the extension `toml`. A listing passes over
files that are no definition and tells so; a look-up by name tries the file of that name first. -/
set_option autoImplicit false

namespace BenchSweep

/-- A kind of definition: how one is read from the text of a file, and its name. -/
structure DefinitionKind (δ : Type) where
  parse : Path → String → Except Failure δ
  name : δ → String
  notFound : String → Failure

/-- A text that defines nothing is the fault of its file. -/
def parsed {δ : Type} (path : Path) : Option δ → Except Failure δ
  | some d => .ok d
  | none => .error (.unparsableFile path.text)

def benchmarks : DefinitionKind Benchmark where
  parse path text := parsed path (Benchmark.ofToml? text)
  name := Benchmark.name
  notFound := .benchmarkNotFound

/-- The target, if every stage that it defines starts with an executable. -/
def Target.valid (path : Path) (t : Target) : Except Failure Target :=
  match t.faultyStage? with
  | some stage => .error (.noExecutable path.text stage t.name)
  | none => .ok t

def targets : DefinitionKind Target where
  parse path text := (parsed path (Target.ofToml? text)).bind (Target.valid path)
  name := Target.name
  notFound := .targetNotFound

namespace DefinitionKind

variable {δ σ : Type}

/-- The definition in a node. -/
def read (k : DefinitionKind δ) (e : Files.Entry) : Except Failure δ :=
  match Files.Node.text e.node with
  | .ok text => k.parse e.path text
  | .error fault => .error (.unreadableFile e.path.text fault)

/-- The nodes in a directory whose names say that they are definitions. -/
def candidates (fs : Files) (directory : Path) : List Files.Entry :=
  (fs.walk directory).filter fun e => e.path.extension? = some "toml"

/-- Adds the definition of a node to those found, or tells why there is none. -/
def consider (k : DefinitionKind δ) (found : List δ) (e : Files.Entry) : Run σ (List δ) := do
  match k.read e with
  | .ok d => return found ++ [d]
  | .error f =>
    Run.report .warning s!"Skipping invalid definition {e.path.text}: {f.message}"
    return found

/-- The definitions in a directory, in the order of their paths. -/
def inOrder (k : DefinitionKind δ) (directory : Path) : Run σ (List δ) := do
  (candidates (← Run.files) directory).foldlM k.consider []

/-- The definitions in a directory by name, those of one name in the order of their paths. -/
def list (k : DefinitionKind δ) (directory : Path) : Run σ (List δ) := do
  return (← k.inOrder directory).mergeSort fun a b => decide (k.name a ≤ k.name b)

/-- The definition in the file of this name, if there is such a file. -/
def direct? (k : DefinitionKind δ) (directory : Path) (name : String) : Run σ (Option δ) := do
  let path := directory.join ⟨s!"{name}.toml"⟩
  match (← Run.files).look path with
  | .error _ => return none
  | .ok .directory => return none
  | .ok node => return some (← Run.of (k.read ⟨path, node⟩))

/-- The definition of this name. The file called like it must hold a definition, but not one of this
name; then the first in the order of paths that has the name counts. -/
def load (k : DefinitionKind δ) (directory : Path) (name : String) : Run σ δ := do
  match (← k.direct? directory name).filter (k.name · = name) with
  | some d => return d
  | none =>
    match (← k.inOrder directory).find? (k.name · = name) with
    | some d => return d
    | none => Run.fail (k.notFound name)

end DefinitionKind

end BenchSweep
