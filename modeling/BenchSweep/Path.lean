import BenchSweep.Text.Pieces

/-! Paths as texts with slashes between their parts. `names` is what a path leads through; two paths
with the same names lead to the same place, however they are spelled. -/
set_option autoImplicit false

namespace BenchSweep

structure Path where
  text : String
deriving DecidableEq

namespace Path

/-- Whether the path starts at the root. -/
def isRooted (p : Path) : Bool := p.text.toList.head? == some '/'

/-- The parts between slashes that are not empty. -/
def parts (p : Path) : List String :=
  ((Text.splitWhere (· == '/') p.text.toList).filter (!·.isEmpty)).map String.ofList

/-- The parts but the single dots, which lead nowhere. -/
def names (p : Path) : List String := p.parts.filter (· ≠ ".")

/-- Whether a slash ends the path, so that it can only lead to a directory. -/
def endsWithSlash (p : Path) : Bool := p.text.toList.getLast? == some '/'

/-- The path `q`, seen from `p`. A rooted path stays as it is. -/
def join (p q : Path) : Path :=
  if q.isRooted then q
  else if p.text = "" || p.endsWithSlash then ⟨p.text ++ q.text⟩
  else ⟨p.text ++ "/" ++ q.text⟩

/-- The path of `name` below `p`. -/
def child (p : Path) (name : String) : Path := p.join ⟨name⟩

/-- The last part, unless it leads upwards. -/
def fileName? (p : Path) : Option String :=
  match p.names.getLast? with
  | some name => if name = ".." then none else some name
  | none => none

/-- The text behind the last dot of a file name, if something stands before that dot. -/
def extensionOf? (name : String) : Option String :=
  match (Text.splitWhere (· == '.') name.toList).reverse with
  | last :: before :: rest => if before.isEmpty && rest.isEmpty then none else some (String.ofList last)
  | _ => none

def extension? (p : Path) : Option String := p.fileName?.bind extensionOf?

/-- The rooted path that leads through `names`. -/
def ofNames (names : List String) : Path := ⟨"/" ++ "/".intercalate names⟩

/-- The slashes that a rooted path starts with: two of them stay, and more are one. -/
def root (p : Path) : String :=
  match p.text.toList with
  | '/' :: '/' :: '/' :: _ => "/"
  | '/' :: '/' :: _ => "//"
  | _ => "/"

/-- The rooted path that leads from the directory `base` where `p` leads. Parts that lead upwards
stay, and so does a slash at the end. -/
def absolute (base : List String) (p : Path) : Path :=
  let whole := if p.isRooted then ⟨p.root ++ "/".intercalate p.names⟩ else ofNames (base ++ p.names)
  if p.endsWithSlash && !whole.endsWithSlash then ⟨whole.text ++ "/"⟩ else whole

end Path

end BenchSweep
