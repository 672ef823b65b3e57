/-
**The analysis of call graphs.**

Every application has one outcome, for the sensitive methods that its call graph calls.
-/
import ApkFeatures.Analysis.Table
import ApkFeatures.Artifact
import ApkFeatures.CallGraph.Features

namespace ApkFeatures.Analysis

/-- The call graph in a file. -/
def loadCallGraph (path : FilePath) : Trial CallGraph := do
  let source ← Trial.ask (some (.readCallGraph path)) (·.readText path)
  match CallGraph.load source.toList with
  | .ok graph => return graph
  | .error fault => throw (.callGraph fault)

/-- Writes the table of the sensitive methods of an application. -/
def saveSensitive (tools : Toolbox) (settings : Settings) (application : Application) :
    Trial FilePath := do
  let path ← Artifact.extractCallGraph tools settings application
  let graph ← loadCallGraph path
  Trial.of <| Step.tellAll graph.callerMessages
  let callers := graph.sensitiveCallers
  let features := callers.features
  Trial.tell .callGraphs .info (application.name ++ ": " ++ toString callers.labels.length ++
    " sensitive API callers, " ++ toString features.found ++ " sensitive APIs found")
  let output := settings.tableFile .sensitiveApis application.name
  saveTable features output (Family.sensitiveApis.identifier? application.name)
  return output

/-- The outcome of the call graph of an application. -/
def callGraphOutcome (tools : Toolbox) (settings : Settings) (application : Application) :
    Step Outcome := do
  match ← (saveSensitive tools settings application).run with
  | .ok output => return ⟨application.name, .sensitiveApis, .extracted output⟩
  | .error failure =>
    Step.tell .callGraphs .warn ("skipping the call graph of " ++ application.name ++ ": " ++
      failure.message)
    return ⟨application.name, .sensitiveApis, .skipped failure.message⟩

/-- The outcomes of the call graphs of all applications, in order. -/
def callGraphs (tools : Toolbox) (settings : Settings) (applications : List Application) :
    Step (List Outcome) := do
  Step.tell .callGraphs .info ("starting the dynamic analysis of " ++
    toString applications.length ++ " applications")
  applications.mapM (callGraphOutcome tools settings)

end ApkFeatures.Analysis
