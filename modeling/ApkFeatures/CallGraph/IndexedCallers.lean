/-
**Callers of sensitive methods, found in tables.**

In a graph with tables the callers are looked for in two ways. One walks from sensitive method to
sensitive method and records the labels of the callers that are met. The other asks the table of
labels for all methods with one label and collects who calls them; it tells of single methods.

* `IndexedGraph.resolve` — the callers of all sensitive methods.
* `IndexedGraph.callersOf` — the callers of the methods with one label.
-/
import ApkFeatures.CallGraph.Callers
import ApkFeatures.CallGraph.Indexed

namespace ApkFeatures.IndexedGraph

/-- The label of the method at a position. -/
def label? (graph : IndexedGraph) (position : Nat) : Option String :=
  (graph.method? position).map Method.label

/-- The positions of the sensitive methods, in the order of the graph. -/
def sensitive (graph : IndexedGraph) (catalog : List String) : List Nat :=
  (List.range graph.size).filter fun position => (graph.label? position).any (isSensitive catalog)

/-- Every call between two sensitive methods, as the positions of the caller and the method
called. -/
def sensitiveCalls (graph : IndexedGraph) (sensitive : List Nat) : List (Nat × Nat) :=
  sensitive.flatMap fun callee =>
    ((graph.callers callee).filter (sensitive.contains ·)).map fun caller => (caller, callee)

/-- Records a caller unless its label has been recorded. -/
def record (graph : IndexedGraph) (found : List String × Nat) (call : Nat × Nat) :
    List String × Nat :=
  match graph.label? call.1 with
  | none => found
  | some label =>
    if found.1.contains label then found
    else (label :: found.1, found.2 + graph.inDegree call.2)

/-- The callers of the sensitive methods. -/
def resolve (graph : IndexedGraph) (sensitive : List Nat) : Callers :=
  let (labels, weight) := (graph.sensitiveCalls sensitive).foldl graph.record ([], 0)
  ⟨ascending labels, weight⟩

/-- The labels of the sensitive callers of all methods with a label. -/
def callersOf (graph : IndexedGraph) (sensitive : List Nat) (label : String) : List String :=
  ascending <| (((graph.labelled label).toList.flatMap graph.callers).filter
    (sensitive.contains ·)).filterMap graph.label?

end ApkFeatures.IndexedGraph
