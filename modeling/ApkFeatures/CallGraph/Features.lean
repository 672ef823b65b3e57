/-
**Sensitive methods as features.**

A name of the vocabulary is present if it occurs in the label of a sensitive method that calls a
sensitive method.

* `Callers.features` — the features of the callers found.
* `CallGraph.callerMessages` — who calls whom, as it is told.
-/
import ApkFeatures.CallGraph.Callers
import ApkFeatures.Text.Search
import ApkFeatures.Vocabulary.SensitiveApis
import ApkFeatures.Feature
import ApkFeatures.Log

namespace ApkFeatures

/-- The name occurs in the label of a caller. -/
def Callers.mention (callers : Callers) (name : String) : Bool :=
  callers.labels.any fun label => Text.occursIn name.toList label.toList

/-- The features of the callers found. -/
def Callers.features (callers : Callers) : FeatureVector Vocabulary.sensitiveApis :=
  .ofNames _ (Vocabulary.sensitiveApis.keys.filter callers.mention)

namespace CallGraph

/-- The callers of the methods of sensitive classes. -/
def sensitiveCallers (graph : CallGraph) : Callers :=
  graph.resolve (graph.sensitive sensitiveClasses)

/-- What is told of the sensitive methods of a graph and of their callers. -/
def callerMessages (graph : CallGraph) : List Message :=
  let sensitive := graph.sensitive sensitiveClasses
  let callers := graph.resolve sensitive
  let called := (ascending (sensitive.map Method.label)).filterMap fun label =>
    match graph.callersOf sensitive label with
    | [] => none
    | calling => some (label ++ " is called by " ++ ", ".intercalate calling)
  let size := toString sensitive.length ++ " of " ++ toString graph.methods.length ++
    " nodes belong to sensitive classes"
  let sum := toString callers.labels.length ++ " distinct callers, weighted in-degree " ++
    toString callers.weightedInDegree
  ((size :: called) ++ [sum]).map fun text => { origin := .callGraphs, level := .debug, text }

end CallGraph

end ApkFeatures
