import BenchSweep.CommandLine.Perform

/-! The program. It takes a picture of the working directory, meets the request in it, shows the answer
and then writes out what is new. -/
set_option autoImplicit false

namespace BenchSweep.Main

/-- The node of a file of the host. -/
def fileNode (e : IO.FS.DirEntry) : IO Node := do
  return .file (← IO.FS.readBinFile e.path).toList

/-- All that stands in a directory, put into the files. -/
partial def picture (entries : Array IO.FS.DirEntry) (place : Location) (fs : Files) : IO Files := do
  let mut fs := fs
  for e in entries do
    let there := place ++ [e.fileName]
    if ← e.path.isDir then
      fs ← picture (← e.path.readDir) there (fs.put there .directory)
    else
      try fs := fs.put there (← fileNode e) catch _ => pure ()
  return fs

/-- Writes out what differs between two pictures. -/
def writeOut (before after : Files) : IO Unit := do
  for (place, node) in after.below [] do
    if before.node? place ≠ some node then
      match node with
      | .directory => IO.FS.createDirAll ⟨(Path.ofNames place).text⟩
      | .file content => IO.FS.writeBinFile ⟨(Path.ofNames place).text⟩ ⟨content.toArray⟩
      | .program _ => pure ()

/-- The time in nanoseconds since the start of 1970, as a new file shows it. -/
def clock : IO Nat := do
  let (_, path) ← IO.FS.createTempFile
  let data ← path.metadata
  IO.FS.removeFile path
  return data.modified.sec.toNat * Instant.nanosPerSecond + data.modified.nsec.toNat

/-- The number of processors of the host, or one where it does not tell. -/
def processors : IO UInt64 := do
  try
    let lines ← IO.FS.lines ⟨"/proc/cpuinfo"⟩
    return UInt64.ofNat (max 1 (lines.filter fun l => l.startsWith "processor").size)
  catch _ => return 1

/-- Meets the request that the words make. -/
def serve (words : List String) : IO UInt32 := do
  let here ← IO.currentDir
  let place := (Path.mk here.toString).names
  let host := (Shell.Host.files.makeDirectories (Path.ofNames place)).1
  let before ← picture (← here.readDir) place (host.within place)
  let answer := CommandLine.call (← processors) words before (← clock)
  IO.print answer.screen
  writeOut before answer.files
  match answer.complaint, answer.refusal with
  | some text, _ => IO.eprintln s!"Error: {text}"
  | _, some .help => IO.print CommandLine.usage
  | _, some .misuse => IO.eprint CommandLine.usage
  | _, _ => pure ()
  return answer.code.toUInt32

end BenchSweep.Main

def main (words : List String) : IO UInt32 := BenchSweep.Main.serve words
