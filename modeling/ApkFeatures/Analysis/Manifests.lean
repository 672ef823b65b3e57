/-
**The analysis of manifests.**

Every application has two outcomes, one for its permissions and one for its intents. A manifest that
cannot be had costs both; one that the reader of XML does not take for a document costs the intents
only.
-/
import ApkFeatures.Analysis.Table
import ApkFeatures.Artifact
import ApkFeatures.Manifest.Intents
import ApkFeatures.Manifest.Permissions

namespace ApkFeatures.Analysis

/-- Writes the table of a family for an application. -/
def saveFamily {vocabulary : Vocabulary} (settings : Settings) (application : Application)
    (family : Family) (features : FeatureVector vocabulary) : Step Outcome := do
  let output := settings.tableFile family application.name
  match ← (saveTable features output (family.identifier? application.name)).run with
  | .ok () => return ⟨application.name, family, .extracted output⟩
  | .error failure =>
    Step.tell .manifests .warn ("could not write the " ++ family.title ++ " of " ++
      application.name ++ ": " ++ failure.message)
    return ⟨application.name, family, .skipped failure.message⟩

/-- The text of the manifest of an application. -/
def readManifest (tools : Toolbox) (settings : Settings) (application : Application) :
    Trial String := do
  let path ← Artifact.extractManifest tools settings application
  Trial.ask (some (.readFile path)) (·.readText path)

/-- The outcome of the permissions in a manifest. -/
def permissionOutcome (settings : Settings) (application : Application) (manifest : String) :
    Step Outcome := do
  Step.tellAll (Manifest.permissionMessages manifest.toList)
  saveFamily settings application .permissions (Manifest.permissions manifest.toList)

/-- The outcome of the intents in a manifest. -/
def intentOutcome (parser : Xml.Parser) (settings : Settings) (application : Application)
    (manifest : String) : Step Outcome := do
  Step.tellAll (Manifest.intentMessages parser manifest.toList)
  match Manifest.intents parser manifest.toList with
  | .ok intents =>
    Step.tell .manifests .info (application.name ++ ": " ++
      toString (Manifest.permissions manifest.toList).found ++ " permissions and " ++
      toString intents.found ++ " intent actions found")
    saveFamily settings application .intents intents
  | .error complaint =>
    let failure := Failure.manifest complaint
    Step.tell .manifests .warn ("skipping the intents of " ++ application.name ++ ": " ++
      failure.message)
    return ⟨application.name, .intents, .skipped failure.message⟩

/-- The outcomes of the manifest of an application. -/
def manifestOutcomes (parser : Xml.Parser) (tools : Toolbox) (settings : Settings)
    (application : Application) : Step (List Outcome) := do
  match ← (readManifest tools settings application).run with
  | .ok manifest =>
    let permissions ← permissionOutcome settings application manifest
    let intents ← intentOutcome parser settings application manifest
    return [permissions, intents]
  | .error failure =>
    Step.tell .manifests .warn ("skipping the manifest of " ++ application.name ++ ": " ++
      failure.message)
    return [⟨application.name, .permissions, .skipped failure.message⟩,
      ⟨application.name, .intents, .skipped failure.message⟩]

/-- The outcomes of the manifests of all applications, in order. -/
def manifests (parser : Xml.Parser) (tools : Toolbox) (settings : Settings)
    (applications : List Application) : Step (List Outcome) := do
  Step.tell .manifests .info ("starting the static analysis of " ++ toString applications.length ++
    " applications")
  return (← applications.mapM (manifestOutcomes parser tools settings)).flatten

end ApkFeatures.Analysis
