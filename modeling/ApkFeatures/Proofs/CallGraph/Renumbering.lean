/-
**Files with other numbers or in another order.**

The identifiers of a call graph file only tell its methods apart, and the order of its entries says
nothing about who calls whom. So if the identifiers are replaced one for one and the entries of the
`graph` list are put in another order, what is found is the same. Only the weighted in-degree
depends on the order of the methods, because a label is recorded at the first method that is called
from it.

* `Describes.renumber` — the new file describes the same graph, up to the numbers and the order.
* `Renumbers.labels_eq`, `Renumbers.weightedInDegree_eq` — what does not change with them.
* `load_renumbered` — the same for the texts of the two files.
-/
import Mathlib.Data.List.Find
import Mathlib.Data.List.Perm.Basic
import ApkFeatures.CallGraph.Features
import ApkFeatures.Proofs.CallGraph.Schema
import ApkFeatures.Proofs.CallGraph.Weight
import ApkFeatures.Proofs.Gml.Lexing

namespace ApkFeatures

variable {f : Int64 → Int64}

/-- The method with a new identifier. -/
def Method.renumber (f : Int64 → Int64) (method : Method) : Method := ⟨f method.id, method.label⟩

/-- The call between methods with new identifiers. -/
def Call.renumber (f : Int64 → Int64) (call : Call) : Call := ⟨f call.caller, f call.callee⟩

namespace CallGraph

open Gml

/-! ### New identifiers in a file -/

/-- The integer that replaces an integer. -/
def renumberNumber (f : Int64 → Int64) : Value → Value
  | .int number => .int (f number)
  | other => other

/-- The entries with new integers at some keys. -/
def renumberKeys (f : Int64 → Int64) (keys : List String) (entries : List Gml.Entry) :
    List Gml.Entry :=
  entries.map fun entry =>
    (entry.1, if entry.1 ∈ keys then renumberNumber f entry.2 else entry.2)

/-- The list with new integers at some keys. -/
def renumberList (f : Int64 → Int64) (keys : List String) : Value → Value
  | .list entries => .list (renumberKeys f keys entries)
  | other => other

/-- The keys of the identifiers in an entry of a `graph` list. -/
def identifierKeys : String → List String
  | "node" => ["id"]
  | "edge" => ["source", "target"]
  | _ => []

/-- **The entry of a `graph` list with new identifiers.** -/
def renumberEntry (f : Int64 → Int64) (entry : Gml.Entry) : Gml.Entry :=
  (entry.1, renumberList f (identifierKeys entry.1) entry.2)

theorem first_renumberKeys {entries : List Gml.Entry} {key : String} {value : Value}
    (first : First entries key value) (f : Int64 → Int64) (keys : List String) :
    First (renumberKeys f keys entries) key
      (if key ∈ keys then renumberNumber f value else value) := by
  obtain ⟨before, after, rfl, earlier⟩ := first
  refine ⟨renumberKeys f keys before, renumberKeys f keys after, ?_, ?_⟩
  · simp [renumberKeys]
  · intro entry member
    obtain ⟨old, inside, rfl⟩ := List.mem_map.mp member
    exact earlier old inside

theorem valuesOf_renumberEntry (f : Int64 → Int64) (entries : List Gml.Entry) (key : String) :
    valuesOf (entries.map (renumberEntry f)) key =
      (valuesOf entries key).map (renumberList f (identifierKeys key)) := by
  unfold valuesOf
  induction entries with
  | nil => rfl
  | cons entry entries ih =>
    rw [List.map_cons, List.filter_cons, List.filter_cons]
    by_cases same : entry.1 = key
    · subst same
      simpa [renumberEntry] using ih
    · simpa [renumberEntry, same] using ih

theorem valuesOf_perm {entries others : List Gml.Entry} (perm : entries.Perm others)
    (key : String) : (valuesOf entries key).Perm (valuesOf others key) :=
  (perm.filter _).map _

/-- **A `node` entry with a new identifier describes the method with that identifier.** -/
theorem DescribesMethod.renumber {node : Value} {method : Method}
    (described : DescribesMethod node method) (f : Int64 → Int64) :
    DescribesMethod (renumberList f (identifierKeys "node") node) (method.renumber f) := by
  obtain ⟨entries, rfl, id, label⟩ := described
  exact ⟨_, rfl, first_renumberKeys id f ["id"], first_renumberKeys label f ["id"]⟩

/-- **An `edge` entry with new identifiers describes the call between methods with these.** -/
theorem DescribesCall.renumber {edge : Value} {call : Call} (described : DescribesCall edge call)
    (f : Int64 → Int64) :
    DescribesCall (renumberList f (identifierKeys "edge") edge) (call.renumber f) := by
  obtain ⟨entries, rfl, source, target⟩ := described
  exact ⟨_, rfl, first_renumberKeys source f ["source", "target"],
    first_renumberKeys target f ["source", "target"]⟩

/-- What values describe one by one, they describe in every order. -/
theorem exists_perm_of_forall₂ {Item : Type} {describes : Value → Item → Prop}
    {values others : List Value} {items : List Item} {value' : Value → Value} {item' : Item → Item}
    (each : List.Forall₂ describes values items)
    (keeps : ∀ value item, describes value item → describes (value' value) (item' item))
    (perm : others.Perm (values.map value')) :
    ∃ found, List.Forall₂ describes others found ∧ found.Perm (items.map item') := by
  refine List.perm_comp_forall₂ perm ?_
  rw [List.forall₂_map_left_iff, List.forall₂_map_right_iff]
  exact each.imp fun value item => keeps value item

/-- New identifiers that tell the methods apart tell the calls apart: both ends of a call are
identifiers of methods. -/
theorem Describes.renumber_inj {entries : List Gml.Entry} {methods : List Method}
    {calls : List Call} (described : Describes entries methods calls)
    (injective : ∀ a ∈ methods.map Method.id, ∀ b ∈ methods.map Method.id, f a = f b → a = b)
    {call other : Call} (member : call ∈ calls) (also : other ∈ calls)
    (equal : call.renumber f = other.renumber f) : call = other := by
  obtain ⟨caller, callee⟩ := described.edges.closed call member
  obtain ⟨caller', callee'⟩ := described.edges.closed other also
  obtain ⟨callers, callees⟩ := Call.mk.inj equal
  cases call
  cases other
  obtain rfl := injective _ caller _ caller' callers
  obtain rfl := injective _ callee _ callee' callees
  rfl

/-- **The new file describes the methods and calls with the new identifiers**, in some order; the
methods in the old order if their entries are in the old order. -/
theorem Describes.renumber {entries others : List Gml.Entry} {methods : List Method}
    {calls : List Call} (described : Describes entries methods calls)
    (injective : ∀ a ∈ methods.map Method.id, ∀ b ∈ methods.map Method.id, f a = f b → a = b)
    (perm : others.Perm (entries.map (renumberEntry f)))
    (directed : lookup others "directed" = lookup entries "directed")
    (multigraph : lookup others "multigraph" = lookup entries "multigraph") :
    ∃ methods' calls', Describes others methods' calls' ∧
      methods'.Perm (methods.map (Method.renumber f)) ∧
      calls'.Perm (calls.map (Call.renumber f)) ∧
      (valuesOf others "node" = valuesOf (entries.map (renumberEntry f)) "node" →
        methods' = methods.map (Method.renumber f)) := by
  have nodes := valuesOf_perm perm "node"
  have edges := valuesOf_perm perm "edge"
  rw [valuesOf_renumberEntry] at nodes edges
  obtain ⟨methods', eachMethod, permMethods⟩ := exists_perm_of_forall₂ described.nodes.each
    (fun _ _ isMethod => isMethod.renumber f) nodes
  obtain ⟨calls', eachCall, permCalls⟩ := exists_perm_of_forall₂ described.edges.each
    (fun _ _ isCall => isCall.renumber f) edges
  have ids : (methods'.map Method.id).Perm ((methods.map Method.id).map f) := by
    have mapped := permMethods.map Method.id
    rwa [List.map_map, show Method.id ∘ Method.renumber f = f ∘ Method.id from rfl,
      ← List.map_map] at mapped
  have same : First others "multigraph" (.int 1) ↔ First entries "multigraph" (.int 1) := by
    rw [← lookup_eq_some_iff, ← lookup_eq_some_iff, multigraph]
  refine ⟨methods', calls', ⟨?_, ⟨eachMethod, ?_⟩, ⟨eachCall, ?_, ?_⟩⟩, permMethods, permCalls, ?_⟩
  · rw [← lookup_eq_some_iff, directed, lookup_eq_some_iff]
    exact described.directed
  · exact ids.nodup_iff.mpr (described.nodes.distinct.map_on injective)
  · intro call member
    obtain ⟨old, inside, rfl⟩ := List.mem_map.mp (permCalls.mem_iff.mp member)
    obtain ⟨caller, callee⟩ := described.edges.closed old inside
    exact ⟨ids.mem_iff.mpr (List.mem_map_of_mem caller),
      ids.mem_iff.mpr (List.mem_map_of_mem callee)⟩
  · intro simple
    have distinct := described.edges.distinct (mt same.mpr simple)
    exact permCalls.nodup_iff.mpr (distinct.map_on fun _ member _ also =>
      described.renumber_inj injective member also)
  · intro ordered
    rw [valuesOf_renumberEntry] at ordered
    have each : List.Forall₂ DescribesMethod (valuesOf others "node")
        (methods.map (Method.renumber f)) := by
      rw [ordered, List.forall₂_map_left_iff, List.forall₂_map_right_iff]
      exact described.nodes.each.imp fun _ _ isMethod => isMethod.renumber f
    have unique : Relator.RightUnique DescribesMethod := fun _ _ _ => DescribesMethod.unique
    exact List.right_unique_forall₂' unique eachMethod each

/-! ### Graphs with other numbers -/

/-- **The other graph has the methods and calls of the graph, with new identifiers**, in some
order. -/
structure Renumbers (f : Int64 → Int64) (graph other : CallGraph) : Prop where
  injective : ∀ a b, graph.HasId a → graph.HasId b → f a = f b → a = b
  methods : other.methods.Perm (graph.methods.map (Method.renumber f))
  calls : other.calls.Perm (graph.calls.map (Call.renumber f))

namespace Renumbers

variable {graph other : CallGraph} {catalog : List String}

theorem mem_methods_iff (renumbers : Renumbers f graph other) {method : Method} :
    method ∈ other.methods ↔ ∃ old ∈ graph.methods, old.renumber f = method := by
  rw [renumbers.methods.mem_iff, List.mem_map]

/-- **A call is renumbered with the methods that it joins.** -/
theorem call_iff (renumbers : Renumbers f graph other) {caller callee : Method}
    (member : caller ∈ graph.methods) (also : callee ∈ graph.methods) :
    ⟨f caller.id, f callee.id⟩ ∈ other.calls ↔ ⟨caller.id, callee.id⟩ ∈ graph.calls := by
  rw [renumbers.calls.mem_iff, List.mem_map]
  constructor
  · rintro ⟨call, inside, same⟩
    obtain ⟨knownCaller, knownCallee⟩ := graph.calls_closed call inside
    obtain ⟨callers, callees⟩ := Call.mk.inj same
    have first := renumbers.injective _ _ knownCaller (List.mem_map_of_mem member) callers
    have second := renumbers.injective _ _ knownCallee (List.mem_map_of_mem also) callees
    rwa [← first, ← second]
  · exact fun inside => ⟨_, inside, rfl⟩

/-- **The labels found are the same.** -/
theorem labels_eq (renumbers : Renumbers f graph other) (catalog : List String) :
    (other.resolve (other.sensitive catalog)).labels =
      (graph.resolve (graph.sensitive catalog)).labels := by
  refine labels_congr fun label => ?_
  simp only [mem_resolve_labels_iff, renumbers.mem_methods_iff]
  constructor
  · rintro ⟨_, ⟨caller, member, rfl⟩, _, ⟨callee, also, rfl⟩, call, calling, called, named⟩
    exact ⟨caller, member, callee, also, (renumbers.call_iff member also).mp call, calling, called,
      named⟩
  · rintro ⟨caller, member, callee, also, call, calling, called, named⟩
    exact ⟨_, ⟨caller, member, rfl⟩, _, ⟨callee, also, rfl⟩,
      (renumbers.call_iff member also).mpr call, calling, called, named⟩

/-- **A method keeps its number of calls.** -/
theorem inDegree_eq (renumbers : Renumbers f graph other) {method : Method}
    (member : method ∈ graph.methods) :
    other.inDegree (method.renumber f) = graph.inDegree method := by
  unfold inDegree callsTo
  rw [← List.countP_eq_length_filter, ← List.countP_eq_length_filter, renumbers.calls.countP_eq,
    List.countP_map]
  refine List.countP_congr fun call inside => ?_
  have known := (graph.calls_closed call inside).2
  simp only [Function.comp_apply, beq_iff_eq, Call.renumber, Method.renumber]
  constructor
  · exact renumbers.injective _ _ known (List.mem_map_of_mem member)
  · exact congrArg f

/-- The sensitive methods are the same if the methods are in the old order. -/
theorem sensitive_eq (ordered : other.methods = graph.methods.map (Method.renumber f))
    (catalog : List String) :
    other.sensitive catalog = (graph.sensitive catalog).map (Method.renumber f) := by
  unfold sensitive
  rw [ordered, List.filter_map]
  rfl

/-- **A label is recorded at the same method** if the methods are in the old order. -/
theorem recordedAt?_eq (renumbers : Renumbers f graph other)
    (ordered : other.methods = graph.methods.map (Method.renumber f)) (catalog : List String)
    (label : String) :
    other.recordedAt? (other.sensitive catalog) label =
      (graph.recordedAt? (graph.sensitive catalog) label).map (Method.renumber f) := by
  have called : ∀ callee ∈ graph.sensitive catalog,
      other.isCalledFrom (other.sensitive catalog) label (callee.renumber f) =
        graph.isCalledFrom (graph.sensitive catalog) label callee := by
    intro callee member
    have known := (mem_sensitive_iff.mp member).1
    rw [Bool.eq_iff_iff, isCalledFrom_iff, isCalledFrom_iff]
    simp only [renumbers.mem_methods_iff, mem_sensitive_iff]
    constructor
    · rintro ⟨_, ⟨caller, inside, rfl⟩, call, ⟨_, sensitive⟩, named⟩
      exact ⟨caller, inside, (renumbers.call_iff inside known).mp call, ⟨inside, sensitive⟩, named⟩
    · rintro ⟨caller, inside, call, ⟨_, sensitive⟩, named⟩
      exact ⟨_, ⟨caller, inside, rfl⟩, (renumbers.call_iff inside known).mpr call,
        ⟨⟨caller, inside, rfl⟩, sensitive⟩, named⟩
  unfold recordedAt?
  rw [sensitive_eq ordered, List.find?_map, ← sensitive_eq ordered]
  exact congrArg _ (List.find?_congr called)

/-- **The weighted in-degree is the same** if the methods are in the old order. -/
theorem weightedInDegree_eq (renumbers : Renumbers f graph other)
    (ordered : other.methods = graph.methods.map (Method.renumber f)) (catalog : List String) :
    (other.resolve (other.sensitive catalog)).weightedInDegree =
      (graph.resolve (graph.sensitive catalog)).weightedInDegree := by
  rw [weightedInDegree_eq_sum, weightedInDegree_eq_sum, renumbers.labels_eq]
  refine congrArg List.sum (List.map_congr_left fun label _ => ?_)
  rw [renumbers.recordedAt?_eq ordered]
  cases found : graph.recordedAt? (graph.sensitive catalog) label with
  | none => rfl
  | some callee =>
    have member := (mem_sensitive_iff.mp (List.mem_of_find?_eq_some found)).1
    exact renumbers.inDegree_eq member

/-- **The features are the same.** -/
theorem features_eq (renumbers : Renumbers f graph other) :
    other.sensitiveCallers.features = graph.sensitiveCallers.features := by
  unfold Callers.features Callers.mention sensitiveCallers
  rw [renumbers.labels_eq]

end Renumbers

/-! ### Files -/

/-- **What is found does not depend on how a file is numbered or ordered.** If a file loads, so does
every file whose `graph` list has the same entries in any order, with identifiers that are replaced
one for one, as long as the first `directed` and the first `multigraph` entry stay the first of
their key. The two have the same numbers of methods and of calls, the same callers and the same
features; and the same weighted in-degree if the `node` entries stay in their order. -/
theorem load_renumbered {source other : List Char} {document document' : Document}
    {entries entries' : List Gml.Entry} {graph : CallGraph} (loaded : load source = .ok graph)
    (parsed : parse source = .ok document) (only : OnlyGraph document entries)
    (injective : ∀ a b, graph.HasId a → graph.HasId b → f a = f b → a = b)
    (parsed' : parse other = .ok document') (only' : OnlyGraph document' entries')
    (perm : entries'.Perm (entries.map (renumberEntry f)))
    (directed : lookup entries' "directed" = lookup entries "directed")
    (multigraph : lookup entries' "multigraph" = lookup entries "multigraph") :
    ∃ graph', load other = .ok graph' ∧
      graph'.methods.length = graph.methods.length ∧
      graph'.calls.length = graph.calls.length ∧
      graph'.sensitiveCallers.labels = graph.sensitiveCallers.labels ∧
      graph'.sensitiveCallers.features = graph.sensitiveCallers.features ∧
      (((entries'.filter fun entry => entry.1 == "node") =
          (entries.map (renumberEntry f)).filter fun entry => entry.1 == "node") →
        graph'.sensitiveCallers.weightedInDegree = graph.sensitiveCallers.weightedInDegree) := by
  obtain ⟨_, parsedAgain, accepted⟩ := load_eq_ok_iff.mp loaded
  obtain rfl := Except.ok.inj (parsed.symm.trans parsedAgain)
  obtain ⟨_, onlyAgain, described⟩ := ofDocument_eq_ok_iff.mp accepted
  have sameEntries := (graphEntries_eq_ok_iff.mpr only).symm.trans
    (graphEntries_eq_ok_iff.mpr onlyAgain)
  obtain rfl := Except.ok.inj sameEntries
  obtain ⟨methods', calls', described', permMethods, permCalls, ordered⟩ :=
    described.renumber (fun a known b also => injective a b known also) perm directed multigraph
  let graph' : CallGraph :=
    ⟨methods', calls', described'.nodes.distinct, described'.edges.closed⟩
  have renumbers : Renumbers f graph graph' := ⟨injective, permMethods, permCalls⟩
  have loaded' : load other = .ok graph' :=
    load_eq_ok_iff.mpr ⟨document', parsed', ofDocument_eq_ok_iff.mpr ⟨entries', only', described'⟩⟩
  refine ⟨graph', loaded', ?_, ?_, renumbers.labels_eq _, renumbers.features_eq, fun same => ?_⟩
  · rw [permMethods.length_eq, List.length_map]
  · rw [permCalls.length_eq, List.length_map]
  · exact renumbers.weightedInDegree_eq (ordered (congrArg (List.map Prod.snd) same)) _

/-- Two methods that exchange their identifiers, and a call that moves to the front. -/
theorem load_renumbered_sample :
    let source :=
      "graph[directed 1 node[id 0 label\"Cipher\"]node[id 1 label\"Cipher;\"]edge[source 0 target 1]]".toList
    let other :=
      "graph[edge[source 1 target 0]directed 1 node[id 1 label\"Cipher\"]node[id 0 label\"Cipher;\"]]".toList
    ∃ graph graph', load source = .ok graph ∧ load other = .ok graph' ∧
      graph'.sensitiveCallers.labels = graph.sensitiveCallers.labels ∧
      graph'.sensitiveCallers.weightedInDegree = graph.sensitiveCallers.weightedInDegree := by
  intro source other
  let label := String.ofList (unescape "Cipher".toList)
  let label' := String.ofList (unescape "Cipher;".toList)
  let entries : List Gml.Entry := [("directed", .int 1),
    ("node", .list [("id", .int 0), ("label", .text label)]),
    ("node", .list [("id", .int 1), ("label", .text label')]),
    ("edge", .list [("source", .int 0), ("target", .int 1)])]
  let entries' : List Gml.Entry := [("edge", .list [("source", .int 1), ("target", .int 0)]),
    ("directed", .int 1), ("node", .list [("id", .int 1), ("label", .text label)]),
    ("node", .list [("id", .int 0), ("label", .text label')])]
  have lexes : Lexes 1 source (flatten [("graph", .list entries)]) 1 [] :=
    .cons rfl <| .cons rfl <| .cons rfl <| .cons rfl <| .cons rfl <| .cons rfl <| .cons rfl <|
    .cons rfl <| .cons rfl <| .cons rfl <| .cons rfl <| .cons rfl <| .cons rfl <| .cons rfl <|
    .cons rfl <| .cons rfl <| .cons rfl <| .cons rfl <| .cons rfl <| .cons rfl <| .cons rfl <|
    .cons rfl <| .cons rfl <| .cons rfl <| .cons rfl <| .cons rfl <| .done 1 []
  have lexes' : Lexes 1 other (flatten [("graph", .list entries')]) 1 [] :=
    .cons rfl <| .cons rfl <| .cons rfl <| .cons rfl <| .cons rfl <| .cons rfl <| .cons rfl <|
    .cons rfl <| .cons rfl <| .cons rfl <| .cons rfl <| .cons rfl <| .cons rfl <| .cons rfl <|
    .cons rfl <| .cons rfl <| .cons rfl <| .cons rfl <| .cons rfl <| .cons rfl <| .cons rfl <|
    .cons rfl <| .cons rfl <| .cons rfl <| .cons rfl <| .cons rfl <| .done 1 []
  have parsed := parse_of_tokens (by decide) ⟨1, [], 1, lexes, rfl⟩
  have parsed' := parse_of_tokens (by decide) ⟨1, [], 1, lexes', rfl⟩
  let graph : CallGraph := ⟨[⟨0, label⟩, ⟨1, label'⟩], [⟨0, 1⟩], by simp, by simp⟩
  have loaded : load source = .ok graph := load_eq_ok_iff.mpr ⟨_, parsed, rfl⟩
  have injective : ∀ a b : Int64, graph.HasId a → graph.HasId b → 1 - a = 1 - b → a = b :=
    fun a b _ _ same => by simpa using same
  have perm : entries'.Perm (entries.map (renumberEntry fun id => 1 - id)) :=
    @List.perm_append_comm _ (entries'.take 1) (entries'.drop 1)
  obtain ⟨graph', loaded', _, _, labels, _, weight⟩ := load_renumbered loaded parsed
    ⟨[], [], rfl, by simp⟩ injective parsed' ⟨[], [], rfl, by simp⟩ perm rfl rfl
  exact ⟨graph, graph', loaded, loaded', labels, weight rfl⟩

end CallGraph

end ApkFeatures
