/-
**Tables of single applications.**

The features of an application are written as a table of two lines, in a folder that is made if it
is missing.
-/
import ApkFeatures.Report.Basic
import ApkFeatures.Settings.Basic
import ApkFeatures.Step

namespace ApkFeatures.Analysis

/-- Writes features as a table. -/
def saveTable {vocabulary : Vocabulary} (features : FeatureVector vocabulary) (path : FilePath)
    (identifier? : Option Identifier) : Trial Unit := do
  match path.parent? with
  | none => pure ()
  | some parent => Trial.change (some (.createFolder parent)) (·.createFolders parent)
  Trial.change (some (.createFile path))
    (Step.whole (·.write path (Text.encode (features.csv identifier?))))

end ApkFeatures.Analysis
