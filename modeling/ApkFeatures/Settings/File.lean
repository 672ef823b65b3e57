/-
**The settings of a run.**

The settings are read from a file in the working folder, or else from the one of the machine; if
there is neither, the defaults hold.
-/
import ApkFeatures.Settings.Load
import ApkFeatures.Step

namespace ApkFeatures.Settings

/-- The settings in a file. -/
def read (path : FilePath) : Trial Settings := do
  let text ← Trial.ask (some (.readFile path)) (·.readText path)
  match ofText text.toList with
  | .ok settings => return settings
  | .error fault => throw (.settings path fault)

/-- The settings of a run. -/
def load : Trial Settings := do
  if ← Trial.of <| Step.ask (·.contains localFile) then read localFile
  else if ← Trial.of <| Step.ask (·.contains globalFile) then read globalFile
  else return {}

end ApkFeatures.Settings
