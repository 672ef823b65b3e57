/-
**Call graphs with tables.**

A graph that is asked for its methods by identifier and by label keeps a table for each. In the
tables a method is known by its position, the number of the methods that were added before it. The
graph and the tables are changed one after the other, so whatever may fail is done before the first
change.

* `IndexedGraph.addNode`, `IndexedGraph.addEdge` — what an entry of a file adds.
* `IndexedGraph.ofDocument` — the graph of a document, or the first fault.
* `IndexedGraph.load` — the graph of a file.
-/
import Std.Data.HashMap
import Std.Data.HashSet
import ApkFeatures.CallGraph.Schema

namespace ApkFeatures

deriving instance Hashable for Call

/-- A method and who calls it. -/
structure MethodNode where
  /-- The method. -/
  method : Method
  /-- The positions of the methods that call it, one for each call, the last call first. -/
  callers : List Nat

/-- The calls of a program, with tables of the identifiers and of the labels. -/
structure IndexedGraph where
  /-- The methods, in the order in which they were added. -/
  nodes : Array MethodNode
  /-- The positions of the caller and of the method called, for every call. -/
  calls : Array (Nat × Nat)
  /-- The position of the method with an identifier. -/
  ids : Std.HashMap Int64 Nat
  /-- The positions of the methods with a label. -/
  labels : Std.HashMap String (Array Nat)

namespace IndexedGraph

open CallGraph (Fault)

/-- The graph without methods. -/
def empty : IndexedGraph where
  nodes := #[]
  calls := #[]
  ids := ∅
  labels := ∅

/-- The number of methods. -/
def size (graph : IndexedGraph) : Nat := graph.nodes.size

/-- The methods, in the order in which they were added. -/
def methods (graph : IndexedGraph) : List Method := graph.nodes.toList.map MethodNode.method

/-- The method at a position. -/
def method? (graph : IndexedGraph) (position : Nat) : Option Method :=
  graph.nodes[position]?.map MethodNode.method

/-- The position of the method with an identifier. -/
def position? (graph : IndexedGraph) (id : Int64) : Option Nat := graph.ids[id]?

/-- The positions of the methods with a label. -/
def labelled (graph : IndexedGraph) (label : String) : Array Nat := graph.labels.getD label #[]

/-- The positions of the methods that call a method, one for each call. -/
def callers (graph : IndexedGraph) (position : Nat) : List Nat :=
  (graph.nodes[position]?.map MethodNode.callers).getD []

/-- The number of calls to a method. -/
def inDegree (graph : IndexedGraph) (position : Nat) : Nat := (graph.callers position).length

/-- Adds a method at the end, to no table yet. -/
def push (graph : IndexedGraph) (method : Method) : IndexedGraph :=
  { graph with nodes := graph.nodes.push ⟨method, []⟩ }

/-- Adds a position to the table of identifiers. -/
def indexId (graph : IndexedGraph) (id : Int64) (position : Nat) : IndexedGraph :=
  { graph with ids := graph.ids.insert id position }

/-- Adds a position to the table of labels. -/
def indexLabel (graph : IndexedGraph) (label : String) (position : Nat) : IndexedGraph :=
  { graph with labels := graph.labels.insert label ((graph.labelled label).push position) }

/-- Adds a call between two positions. -/
def join (graph : IndexedGraph) (caller callee : Nat) : IndexedGraph :=
  { graph with
    nodes := graph.nodes.modify callee fun node => { node with callers := caller :: node.callers }
    calls := graph.calls.push (caller, callee) }

/-- A step that works on a graph and may fail. What it has changed before stays changed. -/
abbrev Build := ExceptT Fault (StateM IndexedGraph)

/-- What has been found, or a fault. -/
def require {α : Type} (found : Option α) (fault : Fault) : Build α :=
  match found with
  | some value => pure value
  | none => throw fault

/-- Adds the method of a `node` list. -/
def addNode (entries : List Gml.Entry) : Build Unit := do
  let id ← require ((Gml.lookup entries "id").bind Gml.Value.int?) .methodWithoutId
  let label ← require ((Gml.lookup entries "label").bind Gml.Value.text?) (.methodWithoutLabel id)
  let graph ← get
  if graph.ids.contains id then throw (.repeatedId id)
  let position := graph.size
  modify (·.push ⟨id, label⟩)
  modify (·.indexId id position)
  modify (·.indexLabel label position)

/-- The identifier and the position at an end of an `edge` list. -/
def endpoint (entries : List Gml.Entry) (side : CallEnd) : Build (Int64 × Nat) := do
  let id ← require ((Gml.lookup entries side.key).bind Gml.Value.int?) (.callWithoutEnd side)
  let position ← require ((← get).position? id) (.unknownEnd side id)
  return (id, position)

/-- Adds the call of an `edge` list. -/
def addEdge (entries : List Gml.Entry) : Build Call := do
  let (callerId, caller) ← endpoint entries .source
  let (calleeId, callee) ← endpoint entries .target
  modify (·.join caller callee)
  return ⟨callerId, calleeId⟩

/-- Adds the method of a `node` entry. -/
def addNodeEntry (node : Gml.Value) : Build Unit := do
  addNode (← require node.list? .methodNotList)

/-- Adds the call of an `edge` entry, which may repeat none of those seen unless the graph is a
multigraph. -/
def addEdgeEntry (multigraph : Bool) (seen : Std.HashSet Call) (edge : Gml.Value) :
    Build (Std.HashSet Call) := do
  let call ← addEdge (← require edge.list? .callNotList)
  if multigraph then return seen
  if seen.contains call then throw (.repeatedCall call)
  return seen.insert call

/-- Adds what a document holds. -/
def addDocument (document : Gml.Document) : Build Unit := do
  let entries ← ofExcept (CallGraph.graphEntries document)
  if !CallGraph.isSet entries "directed" then throw .notDirected
  else
    (CallGraph.valuesOf entries "node").foldlM (fun _ node => addNodeEntry node) ()
    let multigraph := CallGraph.isSet entries "multigraph"
    let _seen ← (CallGraph.valuesOf entries "edge").foldlM (addEdgeEntry multigraph) ∅
    return ()

/-- The call graph of a document. -/
def ofDocument (document : Gml.Document) : Except Fault IndexedGraph :=
  let (outcome, graph) := (addDocument document).run empty
  outcome.map fun _ => graph

/-- The call graph of a file. -/
def load (source : List Char) : Except CallGraph.LoadFault IndexedGraph :=
  match Gml.parse source with
  | .error fault => .error (.gml fault)
  | .ok document => (ofDocument document).mapError .graph

end IndexedGraph

end ApkFeatures
