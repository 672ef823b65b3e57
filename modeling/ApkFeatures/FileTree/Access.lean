/-
**Reading and changing files.**

What can be asked of the files of a tree by their paths, and how a tree changes when files and
folders are made, copied and removed. What fails half-way leaves what it has done: such operations
give their result together with the tree after it.

* `read`, `readText`, `list` — the content of a file, and the names in a folder.
* `write`, `makeFolder`, `createFolders`, `copy` — make something new.
* `removeFile`, `removeFolder` — remove something.
-/
import ApkFeatures.FileTree.Resolve

namespace ApkFeatures.FileTree

/-! ### Asking -/

/-- There is something at the path. -/
def contains (tree : FileTree) (path : FilePath) : Bool := (tree.find? path).toOption.isSome

/-- There is a folder at the path. -/
def isFolder (tree : FileTree) (path : FilePath) : Bool :=
  match tree.find? path with
  | .ok (_, .folder) => true
  | _ => false

/-- There is a file at the path. -/
def isFile (tree : FileTree) (path : FilePath) : Bool :=
  match tree.find? path with
  | .ok (_, .file _ _) => true
  | _ => false

/-- The content of a file. -/
def read (tree : FileTree) (path : FilePath) : Except Fault Bytes := do
  match ← tree.find? path with
  | (_, .file content _) => .ok content
  | (_, .folder) => .error .isFolder

/-- There is a file with some content at the path. -/
def hasContent (tree : FileTree) (path : FilePath) : Bool :=
  match tree.read path with
  | .ok content => !content.isEmpty
  | .error _ => false

/-- The text of a file. -/
def readText (tree : FileTree) (path : FilePath) : Except Fault String := do
  match Text.decode? (← tree.read path) with
  | some text => .ok text
  | none => .error .notText

/-- The names in a folder, in no particular order. -/
def list (tree : FileTree) (path : FilePath) : Except Fault (List Bytes) := do
  match ← tree.find? path with
  | (place, .folder) => .ok (tree.names place)
  | (_, .file _ _) => .error .notFolder

/-! ### Making -/

/-- Puts a file at a path, in the place of one that is there. A file that is not said to be
executable is so if it was before. -/
def putFile (tree : FileTree) (path : FilePath) (content : Bytes) (executable? : Option Bool) :
    Except Fault FileTree := do
  match ← tree.slot? path with
  | none => .error .isFolder
  | some slot =>
    if isSlashed path then .error .isFolder
    else
      match found : tree.lookup? slot.place with
      | some .folder => .error .isFolder
      | some (.file _ executable) =>
        .ok (tree.put slot.folder slot.name (.file content (executable?.getD executable))
          slot.inFolder (by rw [show slot.name :: slot.folder = slot.place from rfl, found]; simp))
      | none =>
        .ok (tree.put slot.folder slot.name (.file content (executable?.getD false))
          slot.inFolder (by rw [show slot.name :: slot.folder = slot.place from rfl, found]; simp))

/-- Writes a file. -/
def write (tree : FileTree) (path : FilePath) (content : Bytes) : Except Fault FileTree :=
  tree.putFile path content none

/-- Makes a folder in one that exists. -/
def makeFolder (tree : FileTree) (path : FilePath) : Except Fault FileTree := do
  match ← tree.slot? path with
  | none => .error .alreadyExists
  | some slot =>
    match found : tree.lookup? slot.place with
    | some _ => .error .alreadyExists
    | none =>
      .ok (tree.put slot.folder slot.name .folder slot.inFolder
        (by rw [show slot.name :: slot.folder = slot.place from rfl, found]; simp))

/-- Makes a folder, unless there is one. -/
def ensureFolder (tree : FileTree) (path : FilePath) : Except Fault Unit × FileTree :=
  match tree.makeFolder path with
  | .ok made => (.ok (), made)
  | .error fault => (if tree.isFolder path then .ok () else .error fault, tree)

/-- Makes a folder and those it lies in, going up to a number of folders. -/
def createFoldersWithin : Nat → FileTree → FilePath → Except Fault Unit × FileTree
  | depth, tree, path =>
    if path.bytes.isEmpty then (.ok (), tree)
    else
      match tree.makeFolder path with
      | .ok made => (.ok (), made)
      | .error .notFound =>
        match depth, path.parent? with
        | depth + 1, some parent =>
          match createFoldersWithin depth tree parent with
          | (.ok (), made) => made.ensureFolder path
          | failed => failed
        | _, _ => (.error .noBeginning, tree)
      | .error fault => (if tree.isFolder path then .ok () else .error fault, tree)

/-- Makes a folder and those it lies in, unless they exist. -/
def createFolders (tree : FileTree) (path : FilePath) : Except Fault Unit × FileTree :=
  createFoldersWithin path.bytes.length tree path

/-- Makes the folder in which a path lies, if the path is written in one. -/
def createParent (tree : FileTree) (path : FilePath) : Except Fault Unit × FileTree :=
  match path.parent? with
  | none => (.ok (), tree)
  | some parent => tree.createFolders parent

/-- Copies a file. The target is emptied before the source is read. -/
def copy (tree : FileTree) (source target : FilePath) : Except Fault Unit × FileTree :=
  match tree.find? source with
  | .error fault => (.error fault, tree)
  | .ok (_, .folder) => (.error .notFile, tree)
  | .ok (_, .file _ executable) =>
    match tree.putFile target [] (some executable) with
    | .error fault => (.error fault, tree)
    | .ok emptied =>
      match emptied.read source >>= fun content => emptied.write target content with
      | .error fault => (.error fault, emptied)
      | .ok copied => (.ok (), copied)

/-- Copies a file into a folder that may have to be made. -/
def copyInto (tree : FileTree) (source target : FilePath) : Except Fault Unit × FileTree :=
  match tree.createParent target with
  | (.ok (), made) => made.copy source target
  | failed => failed

/-! ### Removing -/

/-- Removes a file. -/
def removeFile (tree : FileTree) (path : FilePath) : Except Fault FileTree := do
  match ← tree.find? path with
  | (place, .file _ _) => .ok (tree.erase place)
  | (_, .folder) => .error .isFolder

/-- Removes an empty folder. -/
def removeEmptyFolder (tree : FileTree) (path : FilePath) : Except Fault FileTree := do
  match ← tree.slot? path with
  | some slot => .ok (tree.erase slot.place)
  | none =>
    match (steps path).getLast? with
    | none => .error .busy
    | some last => .error (if isUp last then .notEmpty else .invalidPath)

/-- Removes a folder and all that lies in it. -/
def removeFolder (tree : FileTree) (path : FilePath) : Except Fault Unit × FileTree :=
  match tree.find? path with
  | .error fault => (.error fault, tree)
  | .ok (_, .file _ _) => (.error .notFolder, tree)
  | .ok (place, .folder) =>
    match (tree.clear place).removeEmptyFolder path with
    | .error fault => (.error fault, tree.clear place)
    | .ok removed => (.ok (), removed)

end ApkFeatures.FileTree
