/-
**Call graphs from documents.**

A call graph file has one `graph` list. It is directed, has a `node` list with an `id` and a `label`
for every method, and an `edge` list with a `source` and a `target` for every call. Of a repeated
key the first entry counts, and other keys are ignored. Unless the graph is a multigraph, no two
calls join the same methods in the same direction.

All methods are read before the first call, so a call may stand before the methods it joins.

* `CallGraph.ofDocument` — the graph of a document, or the first fault.
* `CallGraph.load` — the graph of a file.
-/
import ApkFeatures.CallGraph.Basic
import ApkFeatures.Gml.Reader

namespace ApkFeatures

/-- An end of a call. -/
inductive CallEnd where
  /-- The method that calls. -/
  | source
  /-- The method that is called. -/
  | target
deriving DecidableEq

/-- The key of an end of a call. -/
def CallEnd.key : CallEnd → String
  | source => "source"
  | target => "target"

namespace CallGraph

/-- What keeps a document from being a call graph. -/
inductive Fault where
  /-- No entry of the document is a graph. -/
  | noGraph
  /-- Several entries of the document are graphs. -/
  | severalGraphs
  /-- The graph is no list. -/
  | graphNotList
  /-- The graph does not say that it is directed. -/
  | notDirected
  /-- A method is no list. -/
  | methodNotList
  /-- A method has no integer identifier. -/
  | methodWithoutId
  /-- A method has no label. -/
  | methodWithoutLabel (id : Int64)
  /-- Two methods have the same identifier. -/
  | repeatedId (id : Int64)
  /-- A call is no list. -/
  | callNotList
  /-- A call does not say where it ends. -/
  | callWithoutEnd (side : CallEnd)
  /-- A call ends at no method. -/
  | unknownEnd (side : CallEnd) (id : Int64)
  /-- Two calls join the same methods. -/
  | repeatedCall (call : Call)
deriving DecidableEq

/-- The text of a fault. -/
def Fault.message (fault : Fault) : String :=
  "unexpected call graph structure: " ++
    match fault with
    | noGraph => "no `graph` found"
    | severalGraphs => "more than one `graph` found"
    | graphNotList => "`graph` is not a list"
    | notDirected => "the graph is not directed"
    | methodNotList => "`node` is not a list"
    | methodWithoutId => "node without integer `id`"
    | methodWithoutLabel id => s!"node {id.toInt} has no `label`"
    | repeatedId id => s!"node id {id.toInt} is duplicated"
    | callNotList => "`edge` is not a list"
    | callWithoutEnd side => s!"edge without integer `{side.key}`"
    | unknownEnd side id => s!"edge {side.key} {id.toInt} does not exist"
    | repeatedCall call => s!"edge ({call.caller.toInt} -> {call.callee.toInt}) is duplicated"

/-- The entries of the only graph of a document. -/
def graphEntries (document : Gml.Document) : Except Fault (List Gml.Entry) :=
  match document.filter fun entry => entry.1 == "graph" with
  | [] => .error .noGraph
  | [(_, .list entries)] => .ok entries
  | [_] => .error .graphNotList
  | _ :: _ :: _ => .error .severalGraphs

/-- The first entry with the key is the integer one. -/
def isSet (entries : List Gml.Entry) (key : String) : Bool :=
  (Gml.lookup entries key).bind Gml.Value.int? == some 1

/-- The values of the entries with a key. -/
def valuesOf (entries : List Gml.Entry) (key : String) : List Gml.Value :=
  (entries.filter fun entry => entry.1 == key).map Prod.snd

/-- Adds the method of a `node` entry. -/
def addNode (graph : CallGraph) (node : Gml.Value) : Except Fault CallGraph :=
  match node.list? with
  | none => .error .methodNotList
  | some entries =>
    match (Gml.lookup entries "id").bind Gml.Value.int? with
    | none => .error .methodWithoutId
    | some id =>
      match (Gml.lookup entries "label").bind Gml.Value.text? with
      | none => .error (.methodWithoutLabel id)
      | some label =>
        if known : graph.HasId id then .error (.repeatedId id)
        else .ok (graph.addMethod ⟨id, label⟩ known)

/-- The method at an end of an `edge` entry. -/
def readEnd (graph : CallGraph) (entries : List Gml.Entry) (side : CallEnd) :
    Except Fault { id : Int64 // graph.HasId id } :=
  match (Gml.lookup entries side.key).bind Gml.Value.int? with
  | none => .error (.callWithoutEnd side)
  | some id => if known : graph.HasId id then .ok ⟨id, known⟩ else .error (.unknownEnd side id)

/-- Adds the call of an `edge` entry. -/
def addEdge (multigraph : Bool) (graph : CallGraph) (edge : Gml.Value) : Except Fault CallGraph :=
  match edge.list? with
  | none => .error .callNotList
  | some entries => do
    let caller ← graph.readEnd entries .source
    let callee ← graph.readEnd entries .target
    let call : Call := ⟨caller.1, callee.1⟩
    if !multigraph && graph.calls.contains call then .error (.repeatedCall call)
    else .ok (graph.addCall call caller.2 callee.2)

/-- The call graph of a document. -/
def ofDocument (document : Gml.Document) : Except Fault CallGraph := do
  let entries ← graphEntries document
  if !isSet entries "directed" then .error .notDirected
  else
    let methods ← (valuesOf entries "node").foldlM addNode empty
    (valuesOf entries "edge").foldlM (addEdge (isSet entries "multigraph")) methods

/-- What keeps a file from being loaded as a call graph. -/
inductive LoadFault where
  /-- The file is no document. -/
  | gml (fault : Gml.Fault)
  /-- The document is no call graph. -/
  | graph (fault : Fault)

/-- The text of a fault. -/
def LoadFault.message : LoadFault → String
  | gml fault => fault.message
  | graph fault => fault.message

/-- The call graph of a file. -/
def load (source : List Char) : Except LoadFault CallGraph :=
  match Gml.parse source with
  | .error fault => .error (.gml fault)
  | .ok document => (ofDocument document).mapError .graph

end CallGraph

end ApkFeatures
