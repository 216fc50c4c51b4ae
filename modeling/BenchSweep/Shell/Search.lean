import BenchSweep.Files

/-! How the program that a word names is found. -/
set_option autoImplicit false

namespace BenchSweep.Shell

/-- The directories in which programs are searched where nothing else is said. -/
def usualPlaces : String := "/usr/local/sbin:/usr/local/bin:/usr/sbin:/usr/bin:/sbin:/bin"

/-- The program at a path. Other files cannot be executed. -/
def programAt (fs : Files) (p : Path) : Except HostFault String :=
  match fs.look p with
  | .ok (.program name) => .ok name
  | .ok _ => .error .permissionDenied
  | .error e => .error e

/-- The path and the name of the program in the first directory that has one; `refused` tells that a
file of this name came before that cannot be executed. -/
def searchIn (fs : Files) (word : String) : List Path → (refused : Bool) →
    Except HostFault (Path × String)
  | [], refused => .error (if refused then .permissionDenied else .notFound)
  | d :: ds, refused =>
    let p := d.child word
    match programAt fs p with
    | .ok name => .ok (p, name)
    | .error .permissionDenied => searchIn fs word ds true
    | .error _ => searchIn fs word ds refused

/-- The path and the name of the program that a word names. A word with a slash is a path; others are
searched in `places`. -/
def findProgram (fs : Files) (places : String) (word : String) :
    Except HostFault (Path × String) :=
  if word = "" then .error .notFound
  else if word.toList.contains '/' then (programAt fs ⟨word⟩).map fun name => (⟨word⟩, name)
  else if Files.nameLimit < word.utf8ByteSize then .error .nameTooLong
  else
    let directories := (Text.splitWhere (· == ':') places.toList).map fun cs =>
      if cs.isEmpty then Path.mk "." else ⟨String.ofList cs⟩
    searchIn fs word directories false

end BenchSweep.Shell
