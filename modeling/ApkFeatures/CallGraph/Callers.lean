/-
**Callers of sensitive methods.**

A caller counts if it is sensitive itself, so the labels found are labels of sensitive methods. They
are told apart by label: each is recorded once, at the first sensitive method that it calls, and the
number of calls to that method is added to the weighted in-degree.

* `CallGraph.resolve` — the callers of all sensitive methods.
* `CallGraph.callersOf` — the callers of the methods with one label.
-/
import ApkFeatures.CallGraph.Sensitive

namespace ApkFeatures

/-- The labels without repetitions, in ascending order. -/
def ascending (labels : List String) : List String :=
  labels.eraseDups.mergeSort fun a b => decide (a ≤ b)

/-- The methods that call sensitive ones. -/
structure Callers where
  /-- Their labels, in ascending order and without repetitions. -/
  labels : List String
  /-- The sum, over the labels, of the number of calls to the method where each was recorded. -/
  weightedInDegree : Nat
deriving DecidableEq

namespace CallGraph

/-- Every call between two sensitive methods, as the caller and the method called. -/
def sensitiveCalls (graph : CallGraph) (sensitive : List Method) : List (Method × Method) :=
  sensitive.flatMap fun callee =>
    ((graph.callers callee).filter (sensitive.contains ·)).map fun caller => (caller, callee)

/-- Records a caller unless its label has been recorded. -/
def record (graph : CallGraph) (found : List String × Nat) (call : Method × Method) :
    List String × Nat :=
  if found.1.contains call.1.label then found
  else (call.1.label :: found.1, found.2 + graph.inDegree call.2)

/-- The callers of the sensitive methods. -/
def resolve (graph : CallGraph) (sensitive : List Method) : Callers :=
  let (labels, weight) := (graph.sensitiveCalls sensitive).foldl graph.record ([], 0)
  ⟨ascending labels, weight⟩

/-- The labels of the sensitive callers of all methods with a label. -/
def callersOf (graph : CallGraph) (sensitive : List Method) (label : String) : List String :=
  ascending <| (((graph.labelled label).flatMap graph.callers).filter (sensitive.contains ·)).map
    Method.label

end CallGraph

end ApkFeatures
