/-
**Paths of files.**

A path is written as bytes, with a slash between names. It is read as components: where it starts,
then names and steps to the folder above. Repeated slashes and single dots stand for nothing, except
a single dot at the very beginning; two paths with the same components are the same path.

* `components`, `order` — how a path is read, and the order of paths.
* `join`, `parent?` — the path of something in a folder, and of the folder of something.
* `fileName?`, `stem?`, `ending?` — the last name of a path and its two parts.
-/
import ApkFeatures.Text.Utf8

namespace ApkFeatures

/-- The path of a file, as it is written. -/
structure FilePath where
  /-- Its bytes. -/
  bytes : Bytes
deriving DecidableEq

namespace FilePath

/-- The byte between names. -/
def slash : UInt8 := 47

/-- The byte between the parts of a name. -/
def dot : UInt8 := 46

/-- The path with a text. -/
def ofString (text : String) : FilePath := ⟨Text.encode text⟩

/-- What is shown of a path. -/
def shown (path : FilePath) : String := Text.shown path.bytes

/-- A part of a path. -/
inductive Component where
  /-- The root of all folders. -/
  | root
  /-- The folder where relative paths start, written as a dot. -/
  | here
  /-- The folder above. -/
  | up
  /-- A name in a folder. -/
  | name (bytes : Bytes)
deriving DecidableEq

/-- What stands between the slashes. -/
def segments (path : FilePath) : List Bytes := path.bytes.splitOn slash

/-- The segment stands for nothing. -/
def isFiller (segment : Bytes) : Bool := segment = [] || segment = [dot]

/-- The path starts at the root. -/
def isAbsolute (path : FilePath) : Bool := path.bytes.head? = some slash

/-- The component of a segment, if it stands for one anywhere in a path. -/
def Component.ofSegment? (segment : Bytes) : Option Component :=
  if isFiller segment then none
  else if segment = [dot, dot] then some up
  else some (name segment)

/-- The component that only the beginning of a path can have. -/
def start? (path : FilePath) : Option Component :=
  if path.isAbsolute then some .root
  else if path.segments.head? = some [dot] then some .here
  else none

/-- The components of a path. -/
def components (path : FilePath) : List Component :=
  path.start?.toList ++ path.segments.filterMap Component.ofSegment?

/-- The two paths are the same. -/
def same (a b : FilePath) : Bool := a.components = b.components

/-- The rank of a component: the start of a path is below all others, then dots, then names by their
bytes. -/
def Component.order : Component → Bytes
  | root => [0]
  | here => [1]
  | up => [2]
  | name bytes => 3 :: bytes

/-- The rank of a path: that of its components, the first one first. -/
def order (path : FilePath) : List Bytes := path.components.map Component.order

/-- The path of something, given from a folder. A path from the root is itself. -/
def join (folder : FilePath) (path : FilePath) : FilePath :=
  if path.isAbsolute || folder.bytes.isEmpty then path
  else if folder.bytes.getLast? = some slash then ⟨folder.bytes ++ path.bytes⟩
  else ⟨folder.bytes ++ slash :: path.bytes⟩

/-- The path of a name in a folder. -/
def child (folder : FilePath) (name : String) : FilePath := folder.join (ofString name)

/-- Segments without those at the end that stand for nothing. -/
def withoutFillers (segments : List Bytes) : List Bytes :=
  (segments.reverse.dropWhile isFiller).reverse

/-- The path with the given segments, at least one. -/
def ofSegments (segments : List Bytes) : FilePath :=
  if segments = [[]] then ⟨[slash]⟩ else ⟨[slash].intercalate segments⟩

/-- The path of the folder of something, as far as it is written; a path without a last component to
leave out has none. -/
def parent? (path : FilePath) : Option FilePath :=
  match path.segments with
  | [] => none
  | first :: others =>
    match withoutFillers others with
    | [] => if first = [] then none else some ⟨[]⟩
    | kept => some (ofSegments (first :: withoutFillers kept.dropLast))

/-- The last component of a path, if it is a name. -/
def fileName? (path : FilePath) : Option Bytes :=
  match path.components.getLast? with
  | some (.name bytes) => some bytes
  | _ => none

/-- A name, cut at its last dot, unless the name begins there. -/
def cutName (name : Bytes) : Bytes × Option Bytes :=
  let ending := (name.reverse.takeWhile (· ≠ dot)).reverse
  let stem := name.take (name.length - ending.length - 1)
  if stem = [] then (name, none) else (stem, some ending)

/-- The name without its ending. -/
def stem? (path : FilePath) : Option Bytes := path.fileName?.map fun name => (cutName name).1

/-- What follows the last dot of the name. -/
def ending? (path : FilePath) : Option Bytes := path.fileName?.bind fun name => (cutName name).2

end FilePath

end ApkFeatures
