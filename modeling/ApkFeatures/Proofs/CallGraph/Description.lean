/-
**What the entries of a file describe.**

`Describes` says when the entries of a `graph` list describe methods and calls: the first `directed`
entry is the integer one, every `node` entry gives a method with an identifier of its own, and every
`edge` entry gives a call between methods that the list describes anywhere. `FirstFault` says what
is wrong with a document that describes no graph, and which of several faults counts.

* `Describes.mem_methods_iff`, `Describes.mem_calls_iff` — methods and calls as single entries,
  wherever they stand in the list.
-/
import Mathlib.Data.List.Forall2
import ApkFeatures.CallGraph.Schema
import ApkFeatures.Proofs.Gml.Lookup

namespace ApkFeatures.CallGraph

open Gml

/-! ### What entries describe -/

/-- The value of a `node` entry describes the method. -/
def DescribesMethod (node : Value) (method : Method) : Prop :=
  ∃ entries, node = .list entries ∧ First entries "id" (.int method.id) ∧
    First entries "label" (.text method.label)

/-- The value of an `edge` entry describes the call. -/
def DescribesCall (edge : Value) (call : Call) : Prop :=
  ∃ entries, edge = .list entries ∧ First entries "source" (.int call.caller) ∧
    First entries "target" (.int call.callee)

/-- The values of the `node` entries describe the methods one by one, and no identifier is given
twice. -/
structure DescribeMethods (nodes : List Value) (methods : List Method) : Prop where
  each : List.Forall₂ DescribesMethod nodes methods
  distinct : (methods.map Method.id).Nodup

/-- The values of the `edge` entries describe the calls one by one. Both ends of a call are known,
and no call is given twice unless the graph is a multigraph. -/
structure DescribeCalls (multigraph : Prop) (known : List Int64) (edges : List Value)
    (calls : List Call) : Prop where
  each : List.Forall₂ DescribesCall edges calls
  closed : ∀ call ∈ calls, call.caller ∈ known ∧ call.callee ∈ known
  distinct : ¬ multigraph → calls.Nodup

/-- The document has one `graph` entry, and it is the list of these entries. -/
def OnlyGraph (document : Document) (entries : List Gml.Entry) : Prop :=
  ∃ before after, document = before ++ ("graph", .list entries) :: after ∧
    ∀ entry ∈ before ++ after, entry.1 ≠ "graph"

/-- **The entries of a `graph` list describe the methods and the calls.** -/
structure Describes (entries : List Gml.Entry) (methods : List Method) (calls : List Call) :
    Prop where
  directed : First entries "directed" (.int 1)
  nodes : DescribeMethods (valuesOf entries "node") methods
  edges : DescribeCalls (First entries "multigraph" (.int 1)) (methods.map Method.id)
    (valuesOf entries "edge") calls

/-! ### What is described is described once -/

theorem mem_valuesOf_iff {entries : List Gml.Entry} {key : String} {value : Value} :
    value ∈ valuesOf entries key ↔ (key, value) ∈ entries := by
  unfold valuesOf
  rw [List.mem_map]
  constructor
  · rintro ⟨⟨name, _⟩, member, rfl⟩
    obtain ⟨inside, same⟩ := List.mem_filter.mp member
    obtain rfl := beq_iff_eq.mp same
    exact inside
  · intro member
    exact ⟨(key, value), List.mem_filter.mpr ⟨member, beq_self_eq_true _⟩, rfl⟩

/-- An entry describes at most one method. -/
theorem DescribesMethod.unique {node : Value} {method other : Method}
    (described : DescribesMethod node method) (again : DescribesMethod node other) :
    method = other := by
  obtain ⟨entries, rfl, id, label⟩ := described
  obtain ⟨_, same, otherId, otherLabel⟩ := again
  cases same
  have sameId := Value.int.inj (id.unique otherId)
  have sameLabel := Value.text.inj (label.unique otherLabel)
  cases method
  cases other
  cases sameId
  cases sameLabel
  rfl

/-- An entry describes at most one call. -/
theorem DescribesCall.unique {edge : Value} {call other : Call}
    (described : DescribesCall edge call) (again : DescribesCall edge other) : call = other := by
  obtain ⟨entries, rfl, caller, callee⟩ := described
  obtain ⟨_, same, otherCaller, otherCallee⟩ := again
  cases same
  have sameCaller := Value.int.inj (caller.unique otherCaller)
  have sameCallee := Value.int.inj (callee.unique otherCallee)
  cases call
  cases other
  cases sameCaller
  cases sameCallee
  rfl

/-- What is described one by one is all that the values describe. -/
theorem mem_iff_of_forall₂ {Item : Type} {describes : Value → Item → Prop} {values : List Value}
    {items : List Item} (each : List.Forall₂ describes values items)
    (unique : ∀ value item other, describes value item → describes value other → item = other)
    (item : Item) : item ∈ items ↔ ∃ value ∈ values, describes value item := by
  induction each with
  | nil => simp
  | @cons value other values items described _ ih =>
    have first : item = other ↔ describes value item := by
      constructor
      · rintro rfl
        exact described
      · exact fun again => unique value item other again described
    simp only [List.mem_cons, ih, first, exists_eq_or_imp]

/-- **The methods of a graph are those that the `node` entries describe.** -/
theorem Describes.mem_methods_iff {entries : List Gml.Entry} {methods : List Method}
    {calls : List Call} (described : Describes entries methods calls) (method : Method) :
    method ∈ methods ↔ ∃ node, ("node", node) ∈ entries ∧ DescribesMethod node method := by
  rw [mem_iff_of_forall₂ described.nodes.each fun _ _ _ => DescribesMethod.unique]
  simp only [mem_valuesOf_iff]

/-- **The calls of a graph are those that the `edge` entries describe.** -/
theorem Describes.mem_calls_iff {entries : List Gml.Entry} {methods : List Method}
    {calls : List Call} (described : Describes entries methods calls) (call : Call) :
    call ∈ calls ↔ ∃ edge, ("edge", edge) ∈ entries ∧ DescribesCall edge call := by
  rw [mem_iff_of_forall₂ described.edges.each fun _ _ _ => DescribesCall.unique]
  simp only [mem_valuesOf_iff]

/-! ### What is wrong with an entry -/

/-- What is wrong with a `node` entry, if these identifiers have been given. -/
inductive NodeFault (given : List Int64) : Value → Fault → Prop where
  | notList {node : Value} (noList : ∀ entries, node ≠ .list entries) :
      NodeFault given node .methodNotList
  | withoutId {entries : List Gml.Entry} (noId : ∀ id, ¬ First entries "id" (.int id)) :
      NodeFault given (.list entries) .methodWithoutId
  | withoutLabel {entries : List Gml.Entry} {id : Int64} (first : First entries "id" (.int id))
      (noLabel : ∀ label, ¬ First entries "label" (.text label)) :
      NodeFault given (.list entries) (.methodWithoutLabel id)
  | repeated {entries : List Gml.Entry} {method : Method}
      (described : DescribesMethod (.list entries) method) (again : method.id ∈ given) :
      NodeFault given (.list entries) (.repeatedId method.id)

/-- What is wrong with an end of an `edge` entry, if the methods have these identifiers. -/
inductive EndFault (known : List Int64) (entries : List Gml.Entry) (side : CallEnd) :
    Fault → Prop where
  | absent (noEnd : ∀ id, ¬ First entries side.key (.int id)) :
      EndFault known entries side (.callWithoutEnd side)
  | unknown {id : Int64} (first : First entries side.key (.int id)) (stray : id ∉ known) :
      EndFault known entries side (.unknownEnd side id)

/-- What is wrong with an `edge` entry, if the methods have these identifiers and these calls have
been given. Of two bad ends the source counts. -/
inductive EdgeFault (multigraph : Prop) (known : List Int64) (given : List Call) :
    Value → Fault → Prop where
  | notList {edge : Value} (noList : ∀ entries, edge ≠ .list entries) :
      EdgeFault multigraph known given edge .callNotList
  | source {entries : List Gml.Entry} {fault : Fault} (bad : EndFault known entries .source fault) :
      EdgeFault multigraph known given (.list entries) fault
  | target {entries : List Gml.Entry} {fault : Fault} {id : Int64}
      (first : First entries "source" (.int id)) (found : id ∈ known)
      (bad : EndFault known entries .target fault) :
      EdgeFault multigraph known given (.list entries) fault
  | repeated {entries : List Gml.Entry} {call : Call}
      (described : DescribesCall (.list entries) call) (caller : call.caller ∈ known)
      (callee : call.callee ∈ known) (simple : ¬ multigraph) (again : call ∈ given) :
      EdgeFault multigraph known given (.list entries) (.repeatedCall call)

/-- What is wrong with the `graph` entries of a document. -/
inductive ShapeFault (document : Document) : Fault → Prop where
  | noGraph (none : ∀ entry ∈ document, entry.1 ≠ "graph") : ShapeFault document .noGraph
  | severalGraphs {before between after : List Gml.Entry} {first second : Value}
      (several : document = before ++ ("graph", first) :: (between ++ ("graph", second) :: after)) :
      ShapeFault document .severalGraphs
  | graphNotList {before after : List Gml.Entry} {value : Value}
      (only : document = before ++ ("graph", value) :: after)
      (others : ∀ entry ∈ before ++ after, entry.1 ≠ "graph")
      (noList : ∀ entries, value ≠ .list entries) : ShapeFault document .graphNotList

/-- **What is wrong with a document, and which fault counts**: the `graph` entries come first, then
the direction, then the first faulty `node` entry, then the first faulty `edge` entry. -/
inductive FirstFault (document : Document) : Fault → Prop where
  | shape {fault : Fault} (bad : ShapeFault document fault) : FirstFault document fault
  | notDirected {entries : List Gml.Entry} (only : OnlyGraph document entries)
      (undirected : ¬ First entries "directed" (.int 1)) : FirstFault document .notDirected
  | node {entries : List Gml.Entry} {before after : List Value} {value : Value} {fault : Fault}
      {methods : List Method} (only : OnlyGraph document entries)
      (directed : First entries "directed" (.int 1))
      (order : valuesOf entries "node" = before ++ value :: after)
      (earlier : DescribeMethods before methods)
      (bad : NodeFault (methods.map Method.id) value fault) : FirstFault document fault
  | edge {entries : List Gml.Entry} {before after : List Value} {value : Value} {fault : Fault}
      {methods : List Method} {calls : List Call} (only : OnlyGraph document entries)
      (directed : First entries "directed" (.int 1))
      (nodes : DescribeMethods (valuesOf entries "node") methods)
      (order : valuesOf entries "edge" = before ++ value :: after)
      (earlier : DescribeCalls (First entries "multigraph" (.int 1)) (methods.map Method.id)
        before calls)
      (bad : EdgeFault (First entries "multigraph" (.int 1)) (methods.map Method.id) calls value
        fault) : FirstFault document fault

end ApkFeatures.CallGraph
