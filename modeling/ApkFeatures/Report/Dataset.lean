/-
**Merged tables.**

The tables of single applications are merged in one: its first line is the header of the family with
a column for the file name, and every valid table gives one line more, in ascending order of the
file names. A table is valid if its first line is the header of the family and its second line is
not empty.

* `Dataset.merged` — the text of a merged table.
* `Dataset.merge` — merges the tables at some paths.
-/
import ApkFeatures.Report.Basic
import ApkFeatures.Step
import ApkFeatures.Text.Lines

namespace ApkFeatures.Dataset

/-- The column of the file name. -/
def fileColumn : String := "filename"

/-- Paths in ascending order of their last names, those without one first. -/
def byFileName (paths : List FilePath) : List FilePath :=
  paths.mergeSort fun a b => decide (a.fileName?.toList ≤ b.fileName?.toList)

/-- The paths without those that are the same as the one before. -/
def withoutRepeats : List FilePath → List FilePath
  | [] => []
  | [path] => [path]
  | first :: second :: rest =>
    if first.same second then withoutRepeats (first :: rest)
    else first :: withoutRepeats (second :: rest)

/-- The row of a table of a family, if the table is valid. -/
def row? (family : Family) (content : String) : Option String :=
  match Text.lines content.toList with
  | header :: row :: _ =>
    if String.ofList header = family.header ∧ row ≠ [] then some (String.ofList row) else none
  | _ => none

/-- The first line of a merged table. -/
def header (family : Family) : String := family.header ++ "," ++ fileColumn

/-- The row of a merged table for the table at a path, if it can be read and is valid. -/
def mergedRow? (family : Family) (path : FilePath) : Step (Option String) := do
  match path.fileName?.bind Text.decode? with
  | none => return none
  | some name =>
    match ← Step.ask (·.readText path) with
    | .error fault =>
      Step.tell .datasets .warn ("failed to read `" ++ path.shown ++ "`: " ++ fault.message)
      return none
    | .ok content =>
      match row? family content with
      | some row => return some (row ++ "," ++ name)
      | none =>
        Step.tell .datasets .warn ("`" ++ path.shown ++ "` is not a valid " ++ family.title ++
          " file, it will not be merged")
        return none

/-- The text of lines, each ended. -/
def merged (family : Family) (rows : List String) : String :=
  String.join ((header family :: rows).map (· ++ "\n"))

/-- Merges the tables at some paths. The merged table is emptied before they are read. -/
def merge (family : Family) (inputs : List FilePath) (output : FilePath) : Trial Dataset := do
  Trial.change none (·.createParent output)
  Trial.change (some (.createFile output)) (Step.whole (·.write output []))
  let rows ← (withoutRepeats (byFileName inputs)).filterMapM fun path =>
    Trial.of (mergedRow? family path)
  Trial.change none (Step.whole (·.write output (Text.encode (merged family rows))))
  return ⟨family, output, rows.length⟩

end ApkFeatures.Dataset
