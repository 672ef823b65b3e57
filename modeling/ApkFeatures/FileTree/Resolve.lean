/-
**What a path leads to.**

A path is followed one segment at a time: every segment asks for a folder to be in, and a step up
from the root stays there. A path leads to a location, where there may be an entry or none;
something new is made under a name in a folder that exists.

A path has no links to follow. What fails does so because of the path and of what the tree holds:
missing permissions, a full or broken disk and the like are left out.

* `locate`, `find?` — the location of a path, and what is there.
* `slot?` — the folder and the name that a path gives to something new.
-/
import ApkFeatures.FilePath
import ApkFeatures.FileTree.Basic

namespace ApkFeatures.FileTree

/-- Why files could not be reached or changed. -/
inductive Fault where
  /-- There is nothing at the path. -/
  | notFound
  /-- There is something at the path. -/
  | alreadyExists
  /-- A file stands where a folder is needed. -/
  | notFolder
  /-- A folder stands where a file is needed. -/
  | isFolder
  /-- The folder is in use. -/
  | busy
  /-- The path does not name what is to be removed. -/
  | invalidPath
  /-- The folder has something in it. -/
  | notEmpty
  /-- A name or the whole path is too long. -/
  | nameTooLong
  /-- The path holds a zero byte. -/
  | zeroByte
  /-- The content is not the encoding of a text. -/
  | notText
  /-- Only a file can be copied. -/
  | notFile
  /-- There is no folder to begin with. -/
  | noBeginning
deriving DecidableEq

/-- The wording of a fault. -/
def Fault.message : Fault → String
  | notFound => "No such file or directory (os error 2)"
  | alreadyExists => "File exists (os error 17)"
  | notFolder => "Not a directory (os error 20)"
  | isFolder => "Is a directory (os error 21)"
  | busy => "Device or resource busy (os error 16)"
  | invalidPath => "Invalid argument (os error 22)"
  | notEmpty => "Directory not empty (os error 39)"
  | nameTooLong => "File name too long (os error 36)"
  | zeroByte => "file name contained an unexpected NUL byte"
  | notText => "stream did not contain valid UTF-8"
  | notFile => "the source path is neither a regular file nor a symlink to a regular file"
  | noBeginning => "failed to create whole tree"

/-- The greatest length of a name. -/
def longestName : Nat := 255

/-- The greatest length of a path. -/
def longestPath : Nat := 4095

/-- The segment steps to the folder above. -/
def isUp (segment : Bytes) : Bool := segment = [FilePath.dot, FilePath.dot]

/-- Where a segment leads from a folder. -/
def enter (tree : FileTree) (place : Location) (segment : Bytes) : Except Fault Location :=
  match tree.lookup? place with
  | none => .error .notFound
  | some (.file _ _) => .error .notFolder
  | some .folder =>
    if FilePath.isFiller segment then .ok place
    else if isUp segment then .ok place.tail
    else if longestName < segment.length then .error .nameTooLong
    else .ok (segment :: place)

/-- Where a path starts, if it can be followed at all. -/
def start (tree : FileTree) (path : FilePath) : Except Fault Location :=
  if path.bytes.contains 0 then .error .zeroByte
  else if path.bytes.isEmpty then .error .notFound
  else if longestPath < path.bytes.length then .error .nameTooLong
  else .ok (if path.isAbsolute then [] else tree.workingFolder)

/-- Where segments lead from a location. -/
def follow (tree : FileTree) (place : Location) (segments : List Bytes) :
    Except Fault Location :=
  segments.foldlM tree.enter place

/-- Where a path leads. -/
def locate (tree : FileTree) (path : FilePath) : Except Fault Location := do
  tree.follow (← tree.start path) path.segments

/-- What a path leads to. -/
def find? (tree : FileTree) (path : FilePath) : Except Fault (Location × Entry) := do
  let place ← tree.locate path
  match tree.lookup? place with
  | none => .error .notFound
  | some entry => .ok (place, entry)

/-- A name in a folder of the tree. -/
structure Slot (tree : FileTree) where
  /-- The folder. -/
  folder : Location
  /-- The name. -/
  name : Bytes
  /-- The folder is one. -/
  inFolder : tree.lookup? folder = some .folder

/-- The location of a name in a folder. -/
def Slot.place {tree : FileTree} (slot : Slot tree) : Location := slot.name :: slot.folder

/-- The segments of a path without the slashes at its end. -/
def steps (path : FilePath) : List Bytes := (path.segments.reverse.dropWhile List.isEmpty).reverse

/-- The path ends in a slash. -/
def isSlashed (path : FilePath) : Bool := path.bytes.getLast? = some FilePath.slash

/-- The name that a path gives to something in a folder; none if the path ends at the root or in
dots. -/
def slot? (tree : FileTree) (path : FilePath) : Except Fault (Option (Slot tree)) := do
  let steps := steps path
  let folder ← tree.follow (← tree.start path) steps.dropLast
  match inFolder : tree.lookup? folder with
  | none => .error .notFound
  | some (.file _ _) => .error .notFolder
  | some .folder =>
    match steps.getLast? with
    | none => .ok none
    | some name =>
      if FilePath.isFiller name || isUp name then .ok none
      else if longestName < name.length then .error .nameTooLong
      else .ok (some ⟨folder, name, inFolder⟩)

end ApkFeatures.FileTree
