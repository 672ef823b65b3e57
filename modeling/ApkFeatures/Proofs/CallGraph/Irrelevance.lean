/-
**Entries that do not count.**

A document says more than its graph: other keys, lists of other keys with whatever they hold, and a
key that is repeated where only the first entry counts. Such entries may stand anywhere and with any
value, in a document that is a call graph and in one that is refused: the graph is the same, and so
is the fault. The order of entries of different keys does not count either, so a call may stand
before or behind the methods it joins.

* `Inserts.valuesOf_eq`, `Inserts.lookup_eq` — what is asked of a list does not see such an entry.
* `GraphChange.graphAlike` — what each change of a `graph` list leaves.
* `load_irrelevant` — what loads, and the fault of what does not.
-/
import Mathlib.Logic.Relation
import ApkFeatures.Proofs.CallGraph.Schema
import ApkFeatures.Proofs.Gml.Lexing

namespace ApkFeatures.CallGraph

open Gml

/-! ### Entries that are not asked for -/

/-- The keys that are asked for in a list: of some the first entry counts, of others every entry. -/
structure Keys where
  /-- The keys of which the first entry counts. -/
  first : List String
  /-- The keys of which every entry counts. -/
  every : List String

namespace Keys

/-- The keys of a document. -/
def document : Keys := ⟨[], ["graph"]⟩

/-- The keys of a `graph` list. -/
def graph : Keys := ⟨["directed", "multigraph"], ["node", "edge"]⟩

/-- The keys of a `node` list. -/
def node : Keys := ⟨["id", "label"], []⟩

/-- The keys of an `edge` list. -/
def edge : Keys := ⟨["source", "target"], []⟩

end Keys

/-- **An entry is inserted that does not count**: its key is not asked for, or only its first entry
is and stands before. -/
inductive Inserts (keys : Keys) : List Gml.Entry → List Gml.Entry → Prop where
  | entry (before after : List Gml.Entry) {key : String} (value : Value)
      (unread : key ∉ keys.every) (shadowed : key ∈ keys.first → key ∈ before.map Prod.fst) :
      Inserts keys (before ++ after) (before ++ (key, value) :: after)

/-- **A change of a `graph` list that does not count**: an entry is inserted that does not count,
in the list or in one of its `node` or `edge` lists, or an `edge` entry passes entries that are
none. -/
inductive GraphChange : List Gml.Entry → List Gml.Entry → Prop where
  | entry {entries longer : List Gml.Entry} (inserted : Inserts .graph entries longer) :
      GraphChange entries longer
  | node (before after : List Gml.Entry) {entries longer : List Gml.Entry}
      (inserted : Inserts .node entries longer) :
      GraphChange (before ++ ("node", .list entries) :: after)
        (before ++ ("node", .list longer) :: after)
  | edge (before after : List Gml.Entry) {entries longer : List Gml.Entry}
      (inserted : Inserts .edge entries longer) :
      GraphChange (before ++ ("edge", .list entries) :: after)
        (before ++ ("edge", .list longer) :: after)
  | passed (before between after : List Gml.Entry) (edge : Value)
      (others : ∀ entry ∈ between, entry.1 ≠ "edge") :
      GraphChange (before ++ ("edge", edge) :: (between ++ after))
        (before ++ (between ++ ("edge", edge) :: after))

/-- **A change of a document that does not count**: at the top or in a `graph` list. -/
inductive Change : Document → Document → Prop where
  | entry {document longer : Document} (inserted : Inserts .document document longer) :
      Change document longer
  | graph (before after : Document) {entries others : List Gml.Entry}
      (change : GraphChange entries others) :
      Change (before ++ ("graph", .list entries) :: after)
        (before ++ ("graph", .list others) :: after)

/-! ### What is asked of a list -/

theorem valuesOf_append (first second : List Gml.Entry) (key : String) :
    valuesOf (first ++ second) key = valuesOf first key ++ valuesOf second key := by
  unfold valuesOf
  rw [List.filter_append, List.map_append]

theorem valuesOf_cons_self (key : String) (value : Value) (entries : List Gml.Entry) :
    valuesOf ((key, value) :: entries) key = value :: valuesOf entries key := by
  unfold valuesOf
  rw [List.filter_cons_of_pos (by simp), List.map_cons]

theorem valuesOf_cons_of_ne {name key : String} (other : name ≠ key) (value : Value)
    (entries : List Gml.Entry) :
    valuesOf ((name, value) :: entries) key = valuesOf entries key := by
  unfold valuesOf
  rw [List.filter_cons_of_neg (by simpa using other)]

/-- Entries of other keys have no value of a key. -/
theorem valuesOf_eq_nil {entries : List Gml.Entry} {key : String}
    (others : ∀ entry ∈ entries, entry.1 ≠ key) : valuesOf entries key = [] := by
  unfold valuesOf
  rw [List.map_eq_nil_iff, List.filter_eq_nil_iff]
  exact fun entry member same => others entry member (beq_iff_eq.mp same)

/-- **The first entry of a key is the first of its entries.** -/
theorem lookup_eq_head? (entries : List Gml.Entry) (key : String) :
    lookup entries key = (valuesOf entries key).head? := by
  unfold lookup valuesOf
  rw [List.head?_map, List.head?_filter]

theorem lookup_congr {entries others : List Gml.Entry} {key : String}
    (same : valuesOf others key = valuesOf entries key) :
    lookup others key = lookup entries key := by
  rw [lookup_eq_head?, lookup_eq_head?, same]

/-- The entries of a key are the key with its values. -/
theorem filter_eq_map_valuesOf (entries : List Gml.Entry) (key : String) :
    (entries.filter fun entry => entry.1 == key) = (valuesOf entries key).map (key, ·) := by
  unfold valuesOf
  rw [List.map_map]
  refine (List.map_id _).symm.trans (List.map_congr_left fun entry member => ?_)
  obtain rfl := beq_iff_eq.mp (List.mem_filter.mp member).2
  rfl

namespace Inserts

variable {keys : Keys} {entries longer : List Gml.Entry}

/-- **The entries of a key are the same.** -/
theorem valuesOf_eq (inserted : Inserts keys entries longer) {key : String}
    (asked : key ∈ keys.every) : valuesOf longer key = valuesOf entries key := by
  cases inserted with
  | @entry before after name value unread _ =>
    have other : name ≠ key := by
      rintro rfl
      exact unread asked
    rw [valuesOf_append, valuesOf_append, valuesOf_cons_of_ne other]

/-- **The first entry of a key is the same.** -/
theorem lookup_eq (inserted : Inserts keys entries longer) {key : String}
    (asked : key ∈ keys.first) : lookup longer key = lookup entries key := by
  cases inserted with
  | @entry before after name value _ shadowed =>
    by_cases same : name = key
    · subst same
      obtain ⟨⟨_, first⟩, member, rfl⟩ := List.mem_map.mp (shadowed asked)
      have found := List.ne_nil_of_mem (mem_valuesOf_iff.mpr member)
      rw [lookup_eq_head?, lookup_eq_head?, valuesOf_append, valuesOf_append,
        List.head?_append_of_ne_nil _ found, List.head?_append_of_ne_nil _ found]
    · refine lookup_congr ?_
      rw [valuesOf_append, valuesOf_append, valuesOf_cons_of_ne same]

end Inserts

/-! ### Entries that say the same -/

/-- The values of two `node` entries do the same to every graph. -/
def SameNode (node other : Value) : Prop :=
  ∀ graph : CallGraph, graph.addNode other = graph.addNode node

/-- The values of two `edge` entries do the same to every graph. -/
def SameEdge (edge other : Value) : Prop :=
  ∀ multigraph (graph : CallGraph), addEdge multigraph graph other = addEdge multigraph graph edge

theorem Inserts.sameNode {entries longer : List Gml.Entry}
    (inserted : Inserts .node entries longer) : SameNode (.list entries) (.list longer) := by
  intro graph
  unfold addNode
  dsimp only [Value.list?]
  rw [inserted.lookup_eq (by decide), inserted.lookup_eq (by decide)]

theorem Inserts.sameEdge {entries longer : List Gml.Entry}
    (inserted : Inserts .edge entries longer) : SameEdge (.list entries) (.list longer) := by
  intro multigraph graph
  have ends : ∀ side, graph.readEnd longer side = graph.readEnd entries side := by
    intro side
    unfold readEnd
    cases side with
    | source => rw [show CallEnd.source.key = "source" from rfl, inserted.lookup_eq (by decide)]
    | target => rw [show CallEnd.target.key = "target" from rfl, inserted.lookup_eq (by decide)]
  unfold addEdge
  dsimp only [Value.list?]
  rw [ends, ends]

/-- **Two `graph` lists that say the same**: of the direction and of parallel calls, and of each
method and each call in order. -/
structure GraphAlike (entries others : List Gml.Entry) : Prop where
  directed : lookup others "directed" = lookup entries "directed"
  multigraph : lookup others "multigraph" = lookup entries "multigraph"
  nodes : List.Forall₂ SameNode (valuesOf entries "node") (valuesOf others "node")
  edges : List.Forall₂ SameEdge (valuesOf entries "edge") (valuesOf others "edge")

theorem forall₂_same_self {same : Value → Value → Prop} (refl : ∀ value, same value value)
    (values : List Value) : List.Forall₂ same values values :=
  List.forall₂_same.mpr fun value _ => refl value

/-- One value is replaced by one that says the same. -/
theorem forall₂_valuesOf_replace {same : Value → Value → Prop} (refl : ∀ value, same value value)
    {value other : Value} (replaced : same value other) (key : String)
    (before after : List Gml.Entry) :
    List.Forall₂ same (valuesOf (before ++ (key, value) :: after) key)
      (valuesOf (before ++ (key, other) :: after) key) := by
  rw [valuesOf_append, valuesOf_append, valuesOf_cons_self, valuesOf_cons_self]
  exact List.rel_append (forall₂_same_self refl _) (.cons replaced (forall₂_same_self refl _))

/-- An entry of another key is replaced. -/
theorem valuesOf_replace {name key : String} (other : name ≠ key) (value value' : Value)
    (before after : List Gml.Entry) :
    valuesOf (before ++ (name, value) :: after) key =
      valuesOf (before ++ (name, value') :: after) key := by
  rw [valuesOf_append, valuesOf_append, valuesOf_cons_of_ne other, valuesOf_cons_of_ne other]

/-- An `edge` entry passes others, which are not reordered. -/
theorem valuesOf_passed_of_ne {key : String} (other : "edge" ≠ key)
    (before between after : List Gml.Entry) (edge : Value) :
    valuesOf (before ++ (between ++ ("edge", edge) :: after)) key =
      valuesOf (before ++ ("edge", edge) :: (between ++ after)) key := by
  simp only [valuesOf_append, valuesOf_cons_of_ne other]

/-- The `edge` entries stay in their order. -/
theorem valuesOf_passed {between : List Gml.Entry} (others : ∀ entry ∈ between, entry.1 ≠ "edge")
    (before after : List Gml.Entry) (edge : Value) :
    valuesOf (before ++ (between ++ ("edge", edge) :: after)) "edge" =
      valuesOf (before ++ ("edge", edge) :: (between ++ after)) "edge" := by
  simp only [valuesOf_append, valuesOf_cons_self, valuesOf_eq_nil others, List.nil_append]

/-- **A change that does not count leaves a `graph` list that says the same.** -/
theorem GraphChange.graphAlike {entries others : List Gml.Entry}
    (change : GraphChange entries others) : GraphAlike entries others := by
  have node : ∀ node : Value, SameNode node node := fun _ _ => rfl
  have edge : ∀ edge : Value, SameEdge edge edge := fun _ _ _ => rfl
  cases change with
  | entry inserted =>
    refine ⟨inserted.lookup_eq (by decide), inserted.lookup_eq (by decide), ?_, ?_⟩
    · rw [inserted.valuesOf_eq (by decide)]
      exact forall₂_same_self node _
    · rw [inserted.valuesOf_eq (by decide)]
      exact forall₂_same_self edge _
  | node before after inserted =>
    refine ⟨lookup_congr (valuesOf_replace (by decide) _ _ _ _),
      lookup_congr (valuesOf_replace (by decide) _ _ _ _),
      forall₂_valuesOf_replace node inserted.sameNode _ _ _, ?_⟩
    rw [valuesOf_replace (by decide)]
    exact forall₂_same_self edge _
  | edge before after inserted =>
    refine ⟨lookup_congr (valuesOf_replace (by decide) _ _ _ _),
      lookup_congr (valuesOf_replace (by decide) _ _ _ _), ?_,
      forall₂_valuesOf_replace edge inserted.sameEdge _ _ _⟩
    rw [valuesOf_replace (by decide)]
    exact forall₂_same_self node _
  | passed before between after value others =>
    refine ⟨lookup_congr (valuesOf_passed_of_ne (by decide) _ _ _ _),
      lookup_congr (valuesOf_passed_of_ne (by decide) _ _ _ _), ?_, ?_⟩
    · rw [valuesOf_passed_of_ne (by decide)]
      exact forall₂_same_self node _
    · rw [valuesOf_passed others]
      exact forall₂_same_self edge _

/-! ### Documents that say the same -/

/-- Whether a `graph` list counts depends only on what stands around it. -/
theorem graphEntries_context (before after : Document) :
    (∀ entries, graphEntries (before ++ ("graph", .list entries) :: after) = .ok entries) ∨
      ∀ entries, graphEntries (before ++ ("graph", .list entries) :: after) =
        .error .severalGraphs := by
  by_cases others : ∀ entry ∈ before ++ after, entry.1 ≠ "graph"
  · exact Or.inl fun entries => graphEntries_eq_ok_iff.mpr ⟨before, after, rfl, others⟩
  · push Not at others
    obtain ⟨⟨key, value⟩, member, rfl⟩ := others
    refine Or.inr fun entries => ?_
    rcases List.mem_append.mp member with earlier | later
    · obtain ⟨front, between, rfl⟩ := List.append_of_mem earlier
      exact graphEntries_of_several (List.append_assoc front (("graph", value) :: between) _)
    · obtain ⟨between, back, rfl⟩ := List.append_of_mem later
      exact graphEntries_of_several rfl

/-- A step that does the same with values that say the same comes to the same. -/
theorem foldlM_congr {same : Value → Value → Prop}
    {step : CallGraph → Value → Except Fault CallGraph}
    (each : ∀ value other, same value other → ∀ graph, step graph other = step graph value)
    {values others : List Value} (alike : List.Forall₂ same values others) (graph : CallGraph) :
    others.foldlM step graph = values.foldlM step graph := by
  induction alike generalizing graph with
  | nil => rfl
  | @cons value other values others first _ ih =>
    rw [List.foldlM_cons, List.foldlM_cons, each value other first]
    exact bind_congr ih

/-- **A document with a `graph` list that says the same** makes the same graph or has the same
fault. -/
theorem ofDocument_congr {entries others : List Gml.Entry} (alike : GraphAlike entries others)
    (before after : Document) :
    ofDocument (before ++ ("graph", .list others) :: after) =
      ofDocument (before ++ ("graph", .list entries) :: after) := by
  have nodes := foldlM_congr (fun _ _ same graph => same graph) alike.nodes empty
  have edges := fun graph => foldlM_congr (fun _ _ same => same (isSet entries "multigraph"))
    alike.edges graph
  have directed : isSet others "directed" = isSet entries "directed" := by
    unfold isSet
    rw [alike.directed]
  have multigraph : isSet others "multigraph" = isSet entries "multigraph" := by
    unfold isSet
    rw [alike.multigraph]
  unfold ofDocument
  rcases graphEntries_context before after with counts | several
  · rw [counts, counts]
    show (if !isSet others "directed" then _ else _) = (if !isSet entries "directed" then _ else _)
    rw [directed, multigraph, nodes]
    simp only [edges]
  · rw [several, several]

/-- **A change that does not count leaves the graph or the fault of a document.** -/
theorem Change.ofDocument_eq {document changed : Document} (change : Change document changed) :
    ofDocument changed = ofDocument document := by
  cases change with
  | graph before after change => exact ofDocument_congr change.graphAlike before after
  | entry inserted =>
    have same : valuesOf changed "graph" = valuesOf document "graph" :=
      inserted.valuesOf_eq (by decide)
    unfold ofDocument graphEntries
    rw [filter_eq_map_valuesOf, filter_eq_map_valuesOf, same]

/-- **Entries that do not count.** Documents that differ in any number of changes that do not count,
made or undone, make the same graph or have the same fault; and so do files that parse as such
documents. -/
theorem load_irrelevant {document changed : Document}
    (changes : Relation.EqvGen Change document changed) :
    ofDocument changed = ofDocument document ∧
      ∀ source other, parse source = .ok document → parse other = .ok changed →
        load other = load source := by
  have same : ofDocument changed = ofDocument document := by
    induction changes with
    | rel _ _ change => exact change.ofDocument_eq
    | refl => rfl
    | symm _ _ _ ih => exact ih.symm
    | trans _ _ _ _ _ first second => exact second.trans first
  refine ⟨same, fun source other parsed parsed' => ?_⟩
  unfold load
  rw [parsed, parsed']
  dsimp only
  rw [same]

/-- A call that is moved before its method, an end that is repeated, a list named like a graph
inside a method, a direction that is repeated, and an entry outside of the graph. -/
theorem load_irrelevant_sample :
    load ("node 0 graph[directed 1 edge[source 7 target 7 source 8]".toList ++
        "node[id 7 graph[]label\"a\"]directed 0]".toList) =
      load "graph[directed 1 node[id 7 label\"a\"]edge[source 7 target 7]]".toList := by
  let label := String.ofList (unescape "a".toList)
  let direction : Gml.Entry := ("directed", .int 1)
  let node : Gml.Entry := ("node", .list [("id", .int 7), ("label", .text label)])
  let nodeLonger : Gml.Entry :=
    ("node", .list [("id", .int 7), ("graph", .list []), ("label", .text label)])
  let edge : Gml.Entry := ("edge", .list [("source", .int 7), ("target", .int 7)])
  let edgeLonger : Gml.Entry :=
    ("edge", .list [("source", .int 7), ("target", .int 7), ("source", .int 8)])
  let document : Document := [("graph", .list [direction, node, edge])]
  let changed : Document := [("node", .int 0),
    ("graph", .list [direction, edgeLonger, nodeLonger, ("directed", .int 0)])]
  have outside : Change document (("node", .int 0) :: document) :=
    .entry (.entry [] _ (.int 0) (by decide) (by decide))
  have turned : GraphChange [direction, node, edge] [direction, node, edge, ("directed", .int 0)] :=
    .entry (.entry [direction, node, edge] [] (.int 0) (by decide) (by decide))
  have inNode : GraphChange [direction, node, edge, ("directed", .int 0)]
      [direction, nodeLonger, edge, ("directed", .int 0)] :=
    .node [direction] _ (.entry [("id", .int 7)] _ (.list []) (by decide) (by decide))
  have inEdge : GraphChange [direction, nodeLonger, edge, ("directed", .int 0)]
      [direction, nodeLonger, edgeLonger, ("directed", .int 0)] :=
    .edge [direction, nodeLonger] _ <|
      .entry [("source", .int 7), ("target", .int 7)] [] (.int 8) (by decide) (by decide)
  have passed : GraphChange [direction, edgeLonger, nodeLonger, ("directed", .int 0)]
      [direction, nodeLonger, edgeLonger, ("directed", .int 0)] :=
    .passed [direction] [nodeLonger] [("directed", .int 0)] _ (by decide)
  have changes : Relation.EqvGen Change document changed :=
    .trans _ _ _ (.rel _ _ outside) <|
    .trans _ _ _ (.rel _ _ (.graph [_] [] turned)) <|
    .trans _ _ _ (.rel _ _ (.graph [_] [] inNode)) <|
    .trans _ _ _ (.rel _ _ (.graph [_] [] inEdge)) <|
    .symm _ _ (.rel _ _ (.graph [_] [] passed))
  have lexes : Lexes 1 "graph[directed 1 node[id 7 label\"a\"]edge[source 7 target 7]]".toList
      (flatten document) 1 [] :=
    .cons rfl <| .cons rfl <| .cons rfl <| .cons rfl <| .cons rfl <| .cons rfl <| .cons rfl <|
    .cons rfl <| .cons rfl <| .cons rfl <| .cons rfl <| .cons rfl <| .cons rfl <| .cons rfl <|
    .cons rfl <| .cons rfl <| .cons rfl <| .cons rfl <| .cons rfl <| .done 1 []
  have lexes' : Lexes 1 ("node 0 graph[directed 1 edge[source 7 target 7 source 8]".toList ++
      "node[id 7 graph[]label\"a\"]directed 0]".toList) (flatten changed) 1 [] :=
    .cons rfl <| .cons rfl <| .cons rfl <| .cons rfl <| .cons rfl <| .cons rfl <| .cons rfl <|
    .cons rfl <| .cons rfl <| .cons rfl <| .cons rfl <| .cons rfl <| .cons rfl <| .cons rfl <|
    .cons rfl <| .cons rfl <| .cons rfl <| .cons rfl <| .cons rfl <| .cons rfl <| .cons rfl <|
    .cons rfl <| .cons rfl <| .cons rfl <| .cons rfl <| .cons rfl <| .cons rfl <| .cons rfl <|
    .done 1 []
  exact (load_irrelevant changes).2 _ _ (parse_of_tokens (by decide) ⟨1, [], 1, lexes, rfl⟩)
    (parse_of_tokens (by decide) ⟨1, [], 1, lexes', rfl⟩)

end ApkFeatures.CallGraph
