/-
**The command line.**

The files below the working folder are read into a tree, the run is worked out on the tree, and what
it has changed there is changed in the folder. Everything that a run decides is in the modules that
this one imports.

What may be called as a program cannot be asked of the files: a file that begins as a script may.
-/
import ApkFeatures.CommandLine.Run
import ApkFeatures.FileTree.Changes
import ApkFeatures.Tool.Shell
import Std.Time.Date
import Std.Time.DateTime.Timestamp

namespace ApkFeatures.CommandLine

/-- The folder where programs are looked for. -/
def programFolder : FilePath := .ofString "bin"

/-- The variable that has the specification of the messages that are shown. -/
def specificationVariable : String := "RUST_LOG"

/-- A number with at least the given count of digits. -/
def padded (width n : Nat) : String :=
  let digits := toString n
  "".pushn '0' (width - digits.length) ++ digits

/-- The time of a day as a text, from a count of nanoseconds since the beginning of 1970. -/
def moment (nanoseconds : Nat) : String :=
  let seconds := nanoseconds / 1000000000
  let date := Std.Time.PlainDate.ofEpochDay ⟨seconds / 86400⟩
  padded 4 date.year.toInt.toNat ++ "-" ++ padded 2 date.month.val.toNat ++ "-" ++
    padded 2 date.day.val.toNat ++ "T" ++ padded 2 (seconds / 3600 % 24) ++ ":" ++
    padded 2 (seconds / 60 % 60) ++ ":" ++ padded 2 (seconds % 60) ++ "." ++
    padded 9 (nanoseconds % 1000000000) ++ "+00:00"

/-- What the clock shows. -/
def now : IO String := do
  return moment (← Std.Time.Timestamp.now).toNanosecondsSinceUnixEpoch.val.toNat

/-- The entry is a file, or a link to one. -/
def isFile (entry : IO.FS.DirEntry) : IO Bool := do
  try return (← entry.path.metadata).type == .file
  catch _ => return false

/-- Adds a file, or a folder with all that lies in it, to the tree. Links to folders are left
out. -/
partial def load (tree : FileTree) (folder : FilePath) (entry : IO.FS.DirEntry) :
    IO FileTree := do
  let path := folder.child entry.fileName
  if (← entry.path.symlinkMetadata).type == .dir then
    let within ← entry.path.readDir
    within.foldlM (fun tree inner => load tree path inner) (tree.createFolders path).2
  else if ← isFile entry then
    let content := (← IO.FS.readBinFile entry.path).toList
    let callable := (Text.encode "#!").isPrefixOf content
    return (tree.putFile path content (some callable)).toOption.getD tree
  else return tree

/-- Where an entry of the tree lies. -/
def shownPlace (place : Location) : String :=
  "/" ++ "/".intercalate (place.reverse.map Text.shown)

/-- Makes the changes of a run to the files themselves. -/
def store (before after : FileTree) : IO Unit := do
  for (place, entry) in FileTree.removed before after do
    match entry with
    | .folder => IO.FS.removeDir (shownPlace place)
    | .file _ _ => IO.FS.removeFile (shownPlace place)
  for (place, entry) in FileTree.made before after do
    match entry with
    | .folder => IO.FS.createDir (shownPlace place)
    | .file content _ => IO.FS.writeBinFile (shownPlace place) ⟨content.toArray⟩

/-- A run on the files below the working folder; the code with which it ends. -/
def execute (arguments : List String) : IO UInt32 := do
  let started ← now
  let root ← IO.currentDir
  let folder := FilePath.ofString root.toString
  let empty := (FileTree.empty.createFolders folder).2
  let place := (folder.segments.filter (· ≠ [])).reverse
  let before ← (← root.readDir).foldlM (fun tree entry => load tree folder entry) empty
  let specification? ← IO.getEnv specificationVariable
  let (exit, after) := run .own (Shell.toolbox programFolder)
    ⟨arguments, specification?, ⟨started, started⟩⟩ (before.startingAt place)
  store before after
  IO.print exit.output
  IO.eprint exit.errors
  return UInt32.ofNat exit.code

end ApkFeatures.CommandLine

/-- Analyses the folder that the arguments name. -/
def main (arguments : List String) : IO UInt32 := ApkFeatures.CommandLine.execute arguments
