/-
**Sensitive methods, kept as a list and as a set.**

Who walks through the sensitive methods of a graph with tables wants them in the order of the graph;
who meets a method wants to know if it is one of them. So their positions are kept twice, in a list
and in a set, and a position is added to both or to none.

* `SensitivePositions.add` — one position more.
* `IndexedGraph.classify` — the sensitive methods of a graph.
-/
import ApkFeatures.CallGraph.Indexed
import ApkFeatures.CallGraph.Sensitive

namespace ApkFeatures

/-- The positions of the sensitive methods of a graph. -/
structure SensitivePositions where
  /-- The positions, in the order of the graph. -/
  positions : Array Nat
  /-- The set of the positions. -/
  members : Std.HashSet Nat

namespace SensitivePositions

/-- No positions. -/
def empty : SensitivePositions where
  positions := #[]
  members := ∅

/-- Adds a position unless it has been added before. -/
def add (found : SensitivePositions) (position : Nat) : SensitivePositions :=
  if found.members.contains position then found
  else ⟨found.positions.push position, found.members.insert position⟩

/-- The position is that of a sensitive method. -/
def contains (found : SensitivePositions) (position : Nat) : Bool :=
  found.members.contains position

end SensitivePositions

/-- Adds a position if the method there is sensitive. -/
def IndexedGraph.consider (graph : IndexedGraph) (catalog : List String)
    (found : SensitivePositions) (position : Nat) : SensitivePositions :=
  if (graph.method? position).any fun method => isSensitive catalog method.label then
    found.add position
  else found

/-- The sensitive methods of a graph, looked for from its first method to its last. -/
def IndexedGraph.classify (graph : IndexedGraph) (catalog : List String) : SensitivePositions :=
  (List.range graph.size).foldl (graph.consider catalog) .empty

end ApkFeatures
