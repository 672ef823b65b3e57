/-
**Files that are written through a buffer.**

A file that has been made is written at its end. What comes in small pieces is kept back until there
is too much of it, and is written when the file is closed at the latest.

* `FileTree.append` — writing at the end of a file.
* `Buffer.put`, `Buffer.flush` — taking a piece, and writing what is kept back.
-/
import ApkFeatures.Step

namespace ApkFeatures

/-- Writes at the end of a file. -/
def FileTree.append (tree : FileTree) (path : FilePath) (more : Bytes) :
    Except FileTree.Fault FileTree := do
  tree.write path ((← tree.read path) ++ more)

namespace Buffer

/-- The greatest number of bytes that are kept back. -/
def capacity : Nat := 8192

/-- Writes what is kept back. -/
def flush (path : FilePath) (kept : Bytes) : Trial Unit :=
  Trial.change none (Step.whole (·.append path kept))

/-- Makes room for some bytes: what is kept back is written if there is not enough. -/
def makeRoom (path : FilePath) (kept : Bytes) (needed : Nat) : Trial Bytes :=
  if kept.length + needed ≤ capacity then return kept
  else do
    flush path kept
    return []

/-- Takes a piece, and gives what is kept back after it. A piece that would fill the buffer alone is
written at once. -/
def put (path : FilePath) (kept piece : Bytes) : Trial Bytes := do
  let left ← makeRoom path kept piece.length
  if piece.length < capacity then return left ++ piece
  else
    flush path piece
    return left

/-- Takes some pieces, one after the other, into an empty buffer. -/
def putAll (path : FilePath) (pieces : List Bytes) : Trial Bytes := pieces.foldlM (put path) []

end Buffer

end ApkFeatures
