/-
**Graphs that are added to, whether or not an addition succeeds.**

From the empty graph, any `node` and `edge` lists are added one after the other. Some are refused:
then the graph and its tables are what they were. After any of them the tables are right: what they
hold is told by the methods and the calls alone.

* `Represents.sound`, `Represents.answers` — what a graph with tables answers, by itself and as
  compared with the lists.
* `Addition.build_whole`, `Addition.outcome` — one addition, which may be refused.
* `perform_represents`, `perform_methods_prefix` — what a run of additions leaves.
* `perform_sound` — the tables after any run of additions.
-/
import Mathlib.Algebra.BigOperators.Group.Finset.Basic
import ApkFeatures.Proofs.CallGraph.Indexed

namespace ApkFeatures.IndexedGraph

open CallGraph (Fault)

variable {graph : IndexedGraph} {plain : CallGraph}

/-! ### What the tables answer -/

/-- The method at a position has the identifier. -/
def HasId (graph : IndexedGraph) (position : Nat) (id : Int64) : Prop :=
  (graph.method? position).map Method.id = some id

/-- The method at a position has the label. -/
def HasLabel (graph : IndexedGraph) (position : Nat) (label : String) : Prop :=
  (graph.method? position).map Method.label = some label

/-- The tables of a graph with some calls are right. -/
structure Sound (graph : IndexedGraph) (calls : List Call) : Prop where
  /-- An identifier leads to the only method that has it. -/
  ids : ∀ id position, graph.position? id = some position ↔
    graph.HasId position id ∧ ∀ other, graph.HasId other id → other = position
  /-- A label leads to all methods that have it. -/
  labels : ∀ label position,
    position ∈ graph.labelled label ↔ graph.HasLabel position label
  /-- They are in the order in which they were added, and none is there twice. -/
  ascending : ∀ label, (graph.labelled label).toList.Pairwise (· < ·)
  /-- Every method is found under one label. -/
  labelled_once : ∀ position < graph.size, ∃! label, position ∈ graph.labelled label
  /-- Every call joins methods of the graph. -/
  ends : ∀ call ∈ graph.calls, call.1 < graph.size ∧ call.2 < graph.size
  /-- The methods that call a method are those that its calls come from. -/
  callers : ∀ position, (graph.callers position).Perm (calls.filterMap fun call =>
    if graph.position? call.callee = some position then graph.position? call.caller else none)
  /-- A method is called as often as there are calls to it. -/
  inDegree : ∀ position, graph.inDegree position =
    (calls.filter fun call => graph.position? call.callee = some position).length
  /-- Every call is a call to one method. -/
  inDegree_sum : ∑ position ∈ Finset.range graph.size, graph.inDegree position = graph.calls.size
  /-- No call is left out. -/
  calls_size : graph.calls.size = calls.length

/-- A graph with tables answers what a graph without answers. -/
structure Answers (graph : IndexedGraph) (plain : CallGraph) : Prop where
  methods : graph.methods = plain.methods
  calls : graph.calls.size = plain.calls.length
  method? : ∀ id, (graph.position? id).bind graph.method? = plain.method? id
  labelled : ∀ label,
    (graph.labelled label).toList.filterMap graph.method? = plain.labelled label
  callers : ∀ position method, graph.method? position = some method →
    ((graph.callers position).filterMap graph.method?).Perm (plain.callers method)
  inDegree : ∀ position method, graph.method? position = some method →
    graph.inDegree position = plain.inDegree method

/-- The items that pass a test are those at the positions where they pass it. -/
theorem filterMap_findIdxs {Item : Type} (test : Item → Bool) (items : List Item) :
    (items.findIdxs test).filterMap (items[·]?) = items.filter test := by
  induction items using List.reverseRecOn with
  | nil => rfl
  | append_singleton items item ih =>
    rw [List.findIdxs_append, List.filterMap_append, List.filter_append, ← ih]
    congr 1
    · refine List.filterMap_congr fun position member => ?_
      obtain ⟨inside, _⟩ := List.mem_findIdxs_iff_exists_getElem_pos.mp member
      exact List.getElem?_append_left inside
    · rw [List.findIdxs_singleton]
      cases passes : test item with
      | true => simp [passes]
      | false => simp [passes]

namespace Represents

theorem hasId_iff_getElem? (represents : graph.Represents plain) {position : Nat} {id : Int64} :
    graph.HasId position id ↔ (plain.methods.map Method.id)[position]? = some id := by
  rw [HasId, represents.method?_eq_getElem?, List.getElem?_map]

/-- Two methods have no identifier in common. -/
theorem eq_of_hasId (represents : graph.Represents plain) {position other : Nat} {id : Int64}
    (here : graph.HasId position id) (there : graph.HasId other id) : other = position := by
  rw [represents.hasId_iff_getElem?] at here there
  obtain ⟨inside, _⟩ := List.getElem?_eq_some_iff.mp there
  exact (List.getElem?_inj inside plain.ids_nodup).mp (there.trans here.symm)

/-- **The table of identifiers leads to the method that has the identifier.** -/
theorem position?_eq_some_iff (represents : graph.Represents plain) {id : Int64}
    {position : Nat} : graph.position? id = some position ↔ graph.HasId position id := by
  have found : ∀ {position}, graph.position? id = some position → graph.HasId position id := by
    intro position found
    rw [represents.ids] at found
    obtain ⟨inside, same, _⟩ := List.findIdx?_eq_some_iff_getElem.mp found
    rw [represents.hasId_iff_getElem?, List.getElem?_map, List.getElem?_eq_getElem inside]
    exact congrArg some (beq_iff_eq.mp same)
  refine ⟨found, fun has => ?_⟩
  have known : plain.HasId id :=
    List.mem_of_getElem? (represents.hasId_iff_getElem?.mp has)
  obtain ⟨other, there⟩ := Option.isSome_iff_exists.mp ((represents.hasId_iff id).mp known)
  rw [there, represents.eq_of_hasId has (found there)]

/-- **The table of labels leads to the methods that have the label.** -/
theorem mem_labelled_iff (represents : graph.Represents plain) {label : String}
    {position : Nat} : position ∈ graph.labelled label ↔ graph.HasLabel position label := by
  rw [← Array.mem_toList_iff, represents.labels, List.mem_findIdxs_iff_exists_getElem_pos, HasLabel,
    represents.method?_eq_getElem?, Option.map_eq_some_iff]
  constructor
  · rintro ⟨inside, same⟩
    exact ⟨_, List.getElem?_eq_getElem inside, beq_iff_eq.mp same⟩
  · rintro ⟨method, found, same⟩
    obtain ⟨inside, rfl⟩ := List.getElem?_eq_some_iff.mp found
    exact ⟨inside, beq_iff_eq.mpr same⟩

theorem existsUnique_labelled (represents : graph.Represents plain) {position : Nat}
    (inside : position < graph.size) : ∃! label, position ∈ graph.labelled label := by
  rw [represents.size_eq] at inside
  have here : graph.method? position = some plain.methods[position] := by
    rw [represents.method?_eq_getElem?, List.getElem?_eq_getElem inside]
  refine ⟨plain.methods[position].label, ?_, fun label member => ?_⟩
  · exact represents.mem_labelled_iff.mpr (by rw [HasLabel, here]; rfl)
  · have has := represents.mem_labelled_iff.mp member
    rw [HasLabel, here] at has
    exact (Option.some.inj has).symm

/-- **The calls into a method**, told from the calls of the graph. -/
theorem sources_eq (represents : graph.Represents plain) (position : Nat) :
    graph.sources position = plain.calls.filterMap fun call =>
      if graph.position? call.callee = some position then graph.position? call.caller
      else none := by
  rw [sources, represents.calls, List.filter_filterMap, List.map_filterMap]
  refine List.filterMap_congr fun call member => ?_
  obtain ⟨ends, placed⟩ := represents.exists_place member
  obtain ⟨source, target⟩ := place_eq_some_iff.mp placed
  rw [placed, source, target]
  by_cases here : ends.2 = position
  · subst here
    simp
  · simp [here]

theorem inDegree_eq_length_sources (represents : graph.Represents plain) (position : Nat) :
    graph.inDegree position = (graph.sources position).length := by
  rw [inDegree, represents.callers, List.length_reverse]

theorem inDegree_eq_length_filter (represents : graph.Represents plain) (position : Nat) :
    graph.inDegree position =
      (plain.calls.filter fun call => graph.position? call.callee = some position).length := by
  have kept : graph.sources position =
      (plain.calls.filter fun call => graph.position? call.callee = some position).filterMap
        fun call => graph.position? call.caller := by
    rw [represents.sources_eq, List.filterMap_filter]
    simp only [decide_eq_true_eq]
  rw [represents.inDegree_eq_length_sources, kept, List.filterMap_length_eq_length]
  intro call member
  obtain ⟨ends, placed⟩ := represents.exists_place (List.mem_filter.mp member).1
  rw [(place_eq_some_iff.mp placed).1]
  rfl

/-- **Every call counts once**, at the method that is called. -/
theorem sum_inDegree (represents : graph.Represents plain) :
    ∑ position ∈ Finset.range graph.size, graph.inDegree position = graph.calls.size := by
  have each : ∀ position, graph.inDegree position =
      (graph.calls.toList.map Prod.snd : Multiset Nat).count position := by
    intro position
    rw [represents.inDegree_eq_length_sources, sources, List.length_map, Multiset.coe_count,
      List.count, List.countP_map, List.countP_eq_length_filter]
    rfl
  have inside : ∀ callee ∈ (graph.calls.toList.map Prod.snd : Multiset Nat),
      callee ∈ Finset.range graph.size := by
    intro callee member
    obtain ⟨ends, called, rfl⟩ := List.mem_map.mp (Multiset.mem_coe.mp member)
    exact Finset.mem_range.mpr (represents.calls_lt (Array.mem_toList_iff.mp called)).2
  rw [Finset.sum_congr rfl fun position _ => each position, Multiset.sum_count_eq_card inside]
  simp

theorem calls_size (represents : graph.Represents plain) :
    graph.calls.size = plain.calls.length := by
  rw [← Array.length_toList, represents.calls, List.filterMap_length_eq_length]
  intro call member
  obtain ⟨ends, placed⟩ := represents.exists_place member
  rw [placed]
  rfl

/-- **What represents a graph has right tables.** -/
theorem sound (represents : graph.Represents plain) : graph.Sound plain.calls where
  ids := fun id position => by
    rw [represents.position?_eq_some_iff]
    exact ⟨fun has => ⟨has, fun other there => represents.eq_of_hasId has there⟩, And.left⟩
  labels := fun label position => represents.mem_labelled_iff
  ascending := fun label => by
    rw [represents.labels]
    exact List.pairwise_findIdxs
  labelled_once := fun position inside => represents.existsUnique_labelled inside
  ends := fun call member => represents.calls_lt member
  callers := fun position => by
    rw [represents.callers, ← represents.sources_eq]
    exact List.reverse_perm _
  inDegree := represents.inDegree_eq_length_filter
  inDegree_sum := represents.sum_inDegree
  calls_size := represents.calls_size

theorem method?_eq (represents : graph.Represents plain) (id : Int64) :
    (graph.position? id).bind graph.method? = plain.method? id := by
  rw [CallGraph.method?, List.find?_eq_bind_findIdx?_getElem?, ← represents.ids]
  exact Option.bind_congr fun position _ => represents.method?_eq_getElem? position

theorem labelled_eq (represents : graph.Represents plain) (label : String) :
    (graph.labelled label).toList.filterMap graph.method? = plain.labelled label := by
  rw [CallGraph.labelled, ← filterMap_findIdxs, ← represents.labels]
  exact List.filterMap_congr fun position _ => represents.method?_eq_getElem? position

/-- A call is one to the method at a position if it is one to the identifier of the method. -/
theorem callsTo_eq (represents : graph.Represents plain) {position : Nat} {method : Method}
    (here : graph.method? position = some method) :
    plain.callsTo method =
      plain.calls.filter fun call => graph.position? call.callee = some position := by
  rw [CallGraph.callsTo]
  refine List.filter_congr fun call _ => ?_
  rw [Bool.eq_iff_iff, beq_iff_eq, decide_eq_true_iff, represents.position?_eq_some_iff, HasId,
    here]
  exact ⟨fun same => congrArg some same.symm, fun same => (Option.some.inj same).symm⟩

theorem callers_perm (represents : graph.Represents plain) {position : Nat} {method : Method}
    (here : graph.method? position = some method) :
    ((graph.callers position).filterMap graph.method?).Perm (plain.callers method) := by
  rw [represents.callers, List.filterMap_reverse]
  refine (List.reverse_perm _).trans (.of_eq ?_)
  rw [CallGraph.callers, represents.callsTo_eq here, represents.sources_eq,
    List.filterMap_filterMap, List.filterMap_filter]
  refine List.filterMap_congr fun call _ => ?_
  simp only [decide_eq_true_eq]
  split
  · exact represents.method?_eq call.caller
  · rfl

/-- **What represents a graph answers as the graph does.** -/
theorem answers (represents : graph.Represents plain) : graph.Answers plain where
  methods := represents.methods
  calls := represents.calls_size
  method? := represents.method?_eq
  labelled := represents.labelled_eq
  callers := fun position method here => represents.callers_perm here
  inDegree := fun position method here => by
    rw [represents.inDegree_eq_length_filter, CallGraph.inDegree, represents.callsTo_eq here]

end Represents

/-! ### Additions that may be refused -/

/-- What is added to a graph. -/
inductive Addition where
  /-- The method of a `node` list. -/
  | node (entries : List Gml.Entry)
  /-- The call of an `edge` list. -/
  | edge (entries : List Gml.Entry)

namespace Addition

/-- Adds to a graph with tables. A call is given back. -/
def build : Addition → Build (Option Call)
  | node entries => do
    addNode entries
    return none
  | edge entries => return some (← addEdge entries)

/-- Adds to a graph without tables, where calls may be repeated. -/
def add (plain : CallGraph) : Addition → Except Fault CallGraph
  | node entries => plain.addNode (.list entries)
  | edge entries => plain.addEdge true (.list entries)

/-- **An addition that is refused leaves the graph and its tables as they were.** This holds of any
graph, whatever its tables say. -/
theorem build_whole (addition : Addition) : Whole addition.build := by
  cases addition with
  | node entries => exact (addNode_whole entries).bind_pure fun _ => none
  | edge entries => exact (addEdge_whole entries).bind_pure some

/-- **One addition comes out the same on both graphs.** -/
theorem outcome (represents : graph.Represents plain) (addition : Addition) :
    Outcome (fun call? after longer =>
        after.Represents longer ∧ longer.calls = plain.calls ++ call?.toList)
      (addition.build.run graph) (addition.add plain) := by
  cases addition with
  | node entries =>
    rw [build, add, ← bind_pure (plain.addNode _)]
    refine (addNode_outcome represents entries).bind fun ⟨kept, calls⟩ => .ok ⟨kept, ?_⟩
    exact calls.trans (List.append_nil _).symm
  | edge entries =>
    rw [build, add, ← bind_pure (plain.addEdge _ _)]
    exact (addEdge_outcome represents entries).bind fun ⟨kept, calls⟩ => .ok ⟨kept, calls⟩

end Addition

/-- Additions to a graph with tables, one after the other whether or not they succeed: what each
gives, and the graph that they leave. -/
def perform : List Addition → IndexedGraph → List (Except Fault (Option Call)) × IndexedGraph
  | [], graph => ([], graph)
  | addition :: additions, graph =>
    let first := addition.build.run graph
    let others := perform additions first.2
    (first.1 :: others.1, others.2)

/-- Additions to a graph without tables, one after the other whether or not they succeed. -/
def addAll : List Addition → CallGraph → CallGraph
  | [], plain => plain
  | addition :: additions, plain => addAll additions ((addition.add plain).toOption.getD plain)

/-- The calls that were added. -/
def accepted (outcomes : List (Except Fault (Option Call))) : List Call :=
  outcomes.filterMap fun outcome => outcome.toOption.join

theorem accepted_ok (call? : Option Call) (outcomes : List (Except Fault (Option Call))) :
    accepted (.ok call? :: outcomes) = call?.toList ++ accepted outcomes := by
  cases call? with
  | none => rfl
  | some call => rfl

/-- **A run of additions leaves the same on both graphs**, and adds the calls that it gives. -/
theorem perform_represents (additions : List Addition) :
    ∀ {graph plain}, graph.Represents plain →
      (perform additions graph).2.Represents (addAll additions plain) ∧
        (addAll additions plain).calls = plain.calls ++ accepted (perform additions graph).1 := by
  induction additions with
  | nil => exact fun represents => ⟨represents, (List.append_nil _).symm⟩
  | cons addition additions ih =>
    intro graph plain represents
    have first := addition.outcome represents
    have whole := addition.build_whole graph
    rw [perform, addAll]
    generalize addition.build.run graph = ran at first whole ⊢
    generalize addition.add plain = came at first ⊢
    cases first with
    | ok related =>
      obtain ⟨others, calls⟩ := ih related.1
      refine ⟨others, calls.trans ?_⟩
      rw [related.2, List.append_assoc]
      exact congrArg _ (accepted_ok _ _).symm
    | error =>
      obtain rfl := whole _ rfl
      exact ih represents

/-- A method is added at the end. -/
theorem Addition.methods_prefix {addition : Addition} {longer : CallGraph}
    (added : addition.add plain = .ok longer) : plain.methods <+: longer.methods := by
  cases addition with
  | node entries =>
    rw [add] at added
    obtain ⟨method, fresh, _, rfl⟩ := CallGraph.addNode_eq_ok_iff.mp added
    exact List.prefix_append _ _
  | edge entries =>
    rw [add] at added
    obtain ⟨call, caller, callee, _, _, rfl⟩ := CallGraph.addEdge_eq_ok_iff.mp added
    exact List.prefix_rfl

theorem addAll_methods_prefix (additions : List Addition) :
    ∀ plain : CallGraph, plain.methods <+: (addAll additions plain).methods := by
  induction additions with
  | nil => exact fun plain => List.prefix_rfl
  | cons addition additions ih =>
    intro plain
    rw [addAll]
    cases added : addition.add plain with
    | ok longer => exact (Addition.methods_prefix added).trans (ih longer)
    | error fault => exact ih plain

theorem perform_append (first second : List Addition) :
    ∀ graph, (perform (first ++ second) graph).2 = (perform second (perform first graph).2).2 := by
  induction first with
  | nil => exact fun graph => rfl
  | cons addition first ih => exact fun graph => ih _

/-- **Methods keep their positions**, so positions are in the order in which methods were added. -/
theorem perform_methods_prefix (first second : List Addition) :
    (perform first empty).2.methods <+: (perform (first ++ second) empty).2.methods := by
  have before := (perform_represents first empty_represents).1
  have after := (perform_represents second before).1
  rw [perform_append, before.methods, after.methods]
  exact addAll_methods_prefix second _

/-- **After any additions, accepted or refused, the tables are right.** They answer what the lists
of the same additions answer. Whatever is added next, the methods keep their positions, and an
addition that is refused changes nothing. -/
theorem perform_sound (additions : List Addition) :
    (perform additions empty).2.Sound (accepted (perform additions empty).1) ∧
      (perform additions empty).2.Answers (addAll additions CallGraph.empty) ∧
      (∀ more, (perform additions empty).2.methods <+:
        (perform (additions ++ more) empty).2.methods) ∧
      ∀ (addition : Addition) (fault : Fault),
        (addition.build.run (perform additions empty).2).1 = .error fault →
          (addition.build.run (perform additions empty).2).2 = (perform additions empty).2 := by
  obtain ⟨represents, calls⟩ := perform_represents additions empty_represents
  refine ⟨?_, represents.answers, perform_methods_prefix additions,
    fun addition => addition.build_whole _⟩
  have added : accepted (perform additions empty).1 = (addAll additions CallGraph.empty).calls :=
    calls.symm
  rw [added]
  exact represents.sound

/-- A call between methods that may be missing. -/
def Addition.call (caller callee : Int64) : Addition :=
  .edge [("source", .int caller), ("target", .int callee)]

/-- Two methods with one label, a third with the identifier of the first, two calls between the same
methods, a call of a method to itself and a call to no method. -/
def knot : List Addition :=
  [.node [("id", .int 1), ("label", .text "f")], .node [("id", .int 2), ("label", .text "f")],
    .node [("id", .int 1), ("label", .text "g")], .call 1 2, .call 1 2, .call 2 2, .call 2 3]

theorem perform_sound_knot :
    accepted (perform knot empty).1 = [⟨1, 2⟩, ⟨1, 2⟩, ⟨2, 2⟩] ∧
      ((Addition.call 3 1).build.run (perform knot empty).2).1 = .error (.unknownEnd .source 3) ∧
        ((Addition.call 3 1).build.run (perform knot empty).2).2 = (perform knot empty).2 := by
  obtain ⟨represents, calls⟩ := perform_represents knot empty_represents
  have refused : Addition.add (addAll knot CallGraph.empty) (.call 3 1) =
      .error (.unknownEnd .source 3) := by rfl
  have failed := refused ▸ Addition.outcome represents (.call 3 1)
  refine ⟨calls.symm.trans rfl, failed.fault, ?_⟩
  exact (perform_sound knot).2.2.2 (.call 3 1) _ failed.fault

end ApkFeatures.IndexedGraph
