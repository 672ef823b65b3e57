/-
**Tables say what the lists say.**

A graph with tables represents a graph without: the methods and the calls are the same, in the same
order, and every table gives the positions at which the lists have what is asked for. One addition
comes out the same on both, with the same fault, and what it leaves is again such a pair; so does a
whole document.

* `Represents.addMethod`, `Represents.addCall` — one method and one call more.
* `run_addNode`, `run_addEdge` — what the steps do to any graph; a step that fails changes nothing.
* `addNode_outcome`, `addEdge_outcome` — the steps on both graphs.
* `ofDocument_represents`, `load_represents` — documents and files.
-/
import Mathlib.Data.List.Basic
import ApkFeatures.CallGraph.Indexed
import ApkFeatures.Proofs.CallGraph.Schema

namespace ApkFeatures.IndexedGraph

open CallGraph (Fault)

variable {graph : IndexedGraph} {plain : CallGraph}

/-! ### What changes -/

/-- A method in the graph and in both tables. -/
def enter (graph : IndexedGraph) (method : Method) : IndexedGraph :=
  ((graph.push method).indexId method.id graph.size).indexLabel method.label graph.size

theorem methods_enter (graph : IndexedGraph) (method : Method) :
    (graph.enter method).methods = graph.methods ++ [method] := by
  simp [enter, push, indexId, indexLabel, methods]

theorem position?_enter (graph : IndexedGraph) (method : Method) (id : Int64) :
    (graph.enter method).position? id =
      if method.id = id then some graph.size else graph.position? id := by
  simp [enter, push, indexId, indexLabel, position?, Std.HashMap.getElem?_insert]

theorem labelled_enter (graph : IndexedGraph) (method : Method) (label : String) :
    (graph.enter method).labelled label =
      if method.label = label then (graph.labelled method.label).push graph.size
      else graph.labelled label := by
  simp [enter, push, indexId, indexLabel, labelled, Std.HashMap.getD_insert]

theorem callers_enter (graph : IndexedGraph) (method : Method) (position : Nat) :
    (graph.enter method).callers position = graph.callers position := by
  simp only [enter, push, indexId, indexLabel, callers, Array.getElem?_push]
  split
  · rename_i last
    simp [last]
  · rfl

theorem callers_join (graph : IndexedGraph) (caller callee position : Nat) :
    (graph.join caller callee).callers position =
      if callee = position ∧ position < graph.size then caller :: graph.callers position
      else graph.callers position := by
  simp only [join, callers, Array.getElem?_modify, size]
  by_cases here : callee = position
  · subst here
    by_cases inside : callee < graph.nodes.size
    · simp [inside]
    · simp [inside]
  · simp [here]

theorem getElem?_methods (graph : IndexedGraph) (position : Nat) :
    graph.methods[position]? = graph.method? position := by
  rw [methods, List.getElem?_map, Array.getElem?_toList]
  rfl

theorem methods_join (graph : IndexedGraph) (caller callee : Nat) :
    (graph.join caller callee).methods = graph.methods := by
  refine List.ext_getElem? fun position => ?_
  rw [getElem?_methods, getElem?_methods, join, method?, Array.getElem?_modify, method?]
  split
  · rw [Option.map_map]
    rfl
  · rfl

/-! ### The graph that is represented -/

/-- The positions of the ends of a call. -/
def place (graph : IndexedGraph) (call : Call) : Option (Nat × Nat) :=
  (graph.position? call.caller).bind fun caller =>
    (graph.position? call.callee).map fun callee => (caller, callee)

theorem place_eq_some_iff {call : Call} {ends : Nat × Nat} :
    graph.place call = some ends ↔
      graph.position? call.caller = some ends.1 ∧ graph.position? call.callee = some ends.2 := by
  obtain ⟨caller, callee⟩ := ends
  simp [place, Option.bind_eq_some_iff]

/-- The positions that the calls into a method come from, in the order of the calls. -/
def sources (graph : IndexedGraph) (position : Nat) : List Nat :=
  (graph.calls.toList.filter fun ends => ends.2 == position).map Prod.fst

/-- The graph has the methods and the calls of another, and its tables give their positions. -/
structure Represents (graph : IndexedGraph) (plain : CallGraph) : Prop where
  methods : graph.methods = plain.methods
  ids : ∀ id, graph.position? id = plain.methods.findIdx? (·.id == id)
  labels : ∀ label, (graph.labelled label).toList = plain.methods.findIdxs (·.label == label)
  calls : graph.calls.toList = plain.calls.filterMap graph.place
  callers : ∀ position, graph.callers position = (graph.sources position).reverse

theorem empty_represents : empty.Represents CallGraph.empty where
  methods := rfl
  ids := fun id => by simp [empty, position?, CallGraph.empty]
  labels := fun label => by simp [empty, labelled, CallGraph.empty]
  calls := rfl
  callers := fun position => rfl

namespace Represents

theorem size_eq (represents : graph.Represents plain) : graph.size = plain.methods.length := by
  rw [← represents.methods, IndexedGraph.methods, List.length_map, Array.length_toList]
  rfl

theorem method?_eq_getElem? (represents : graph.Represents plain) (position : Nat) :
    graph.method? position = plain.methods[position]? := by
  rw [← represents.methods, getElem?_methods]

theorem hasId_iff (represents : graph.Represents plain) (id : Int64) :
    plain.HasId id ↔ (graph.position? id).isSome := by
  rw [represents.ids, List.findIdx?_isSome, List.any_eq_true]
  simp [CallGraph.HasId]

theorem position?_lt (represents : graph.Represents plain) {id : Int64} {position : Nat}
    (found : graph.position? id = some position) : position < graph.size := by
  rw [represents.ids] at found
  rw [represents.size_eq]
  exact (List.findIdx?_eq_some_iff_getElem.mp found).1

/-- Every call has both ends in the graph. -/
theorem exists_place (represents : graph.Represents plain) {call : Call}
    (member : call ∈ plain.calls) : ∃ ends, graph.place call = some ends := by
  obtain ⟨caller, callee⟩ := plain.calls_closed call member
  obtain ⟨first, source⟩ := Option.isSome_iff_exists.mp ((represents.hasId_iff _).mp caller)
  obtain ⟨last, target⟩ := Option.isSome_iff_exists.mp ((represents.hasId_iff _).mp callee)
  exact ⟨(first, last), place_eq_some_iff.mpr ⟨source, target⟩⟩

theorem calls_lt (represents : graph.Represents plain) {ends : Nat × Nat}
    (member : ends ∈ graph.calls) : ends.1 < graph.size ∧ ends.2 < graph.size := by
  rw [← Array.mem_toList_iff, represents.calls] at member
  obtain ⟨call, _, placed⟩ := List.mem_filterMap.mp member
  obtain ⟨source, target⟩ := place_eq_some_iff.mp placed
  exact ⟨represents.position?_lt source, represents.position?_lt target⟩

/-! ### One addition -/

/-- **A new method goes to the end and into both tables.** No position that was found before is
lost, so the calls keep their ends. -/
theorem addMethod (represents : graph.Represents plain) (method : Method)
    (fresh : ¬ plain.HasId method.id) :
    (graph.enter method).Represents (plain.addMethod method fresh) where
  methods := by
    rw [methods_enter, represents.methods]
    rfl
  ids := fun id => by
    rw [position?_enter, CallGraph.addMethod, List.findIdx?_append, ← represents.ids]
    by_cases same : method.id = id
    · subst same
      have unknown : graph.position? method.id = none := by
        rw [← Option.not_isSome_iff_eq_none, ← represents.hasId_iff]
        exact fresh
      simp [unknown, represents.size_eq]
    · simp [same]
  labels := fun label => by
    rw [labelled_enter, CallGraph.addMethod, List.findIdxs_append, ← represents.labels,
      List.findIdxs_singleton, Nat.zero_add, ← represents.size_eq]
    by_cases same : method.label = label
    · subst same
      simp
    · simp [same]
  calls := by
    refine represents.calls.trans (List.filterMap_congr fun call member => ?_)
    obtain ⟨ends, placed⟩ := represents.exists_place member
    have kept : ∀ {id position}, graph.position? id = some position →
        (graph.enter method).position? id = some position := by
      intro id position found
      rw [position?_enter, if_neg, found]
      rintro rfl
      exact fresh ((represents.hasId_iff _).mpr (by simp [found]))
    obtain ⟨source, target⟩ := place_eq_some_iff.mp placed
    rw [placed, place_eq_some_iff.mpr ⟨kept source, kept target⟩]
  callers := fun position => by
    rw [callers_enter]
    exact represents.callers position

/-- **A new call is the last one**, and the first of those into the method that is called. -/
theorem addCall (represents : graph.Represents plain) {call : Call} {ends : Nat × Nat}
    (placed : graph.place call = some ends) (caller : plain.HasId call.caller)
    (callee : plain.HasId call.callee) :
    (graph.join ends.1 ends.2).Represents (plain.addCall call caller callee) where
  methods := by
    rw [methods_join]
    exact represents.methods
  ids := represents.ids
  labels := represents.labels
  calls := by
    have same : (graph.join ends.1 ends.2).place = graph.place := rfl
    rw [same, CallGraph.addCall, List.filterMap_append, ← represents.calls,
      List.filterMap_cons_some placed]
    simp [join]
  callers := fun position => by
    have inside := represents.position?_lt (place_eq_some_iff.mp placed).2
    rw [callers_join, represents.callers]
    by_cases here : ends.2 = position
    · subst here
      simp [sources, join, inside]
    · simp [sources, join, here]

end Represents

/-! ### What an entry adds -/

section Runs

variable {Value Result : Type}

theorem run_bind (first : Build Value) (next : Value → Build Result) (graph : IndexedGraph) :
    (first >>= next).run graph =
      match first.run graph with
      | (.ok value, reached) => (next value).run reached
      | (.error fault, reached) => (.error fault, reached) := by
  rw [ExceptT.run_bind]
  show StateT.bind _ _ graph = _
  rw [StateT.bind]
  change (match first.run graph with | (result, reached) => _) = _
  cases first.run graph with
  | mk result reached =>
    cases result with
    | ok value => rfl
    | error fault => rfl

theorem run_require (found : Option Value) (fault : Fault) (graph : IndexedGraph) :
    (require found fault).run graph =
      match found with
      | some value => (.ok value, graph)
      | none => (.error fault, graph) := by
  cases found with
  | some value => rfl
  | none => rfl

end Runs

/-- A step that fails has changed nothing. -/
def Whole {Value : Type} (step : Build Value) : Prop :=
  ∀ graph fault, (step.run graph).1 = .error fault → (step.run graph).2 = graph

theorem Whole.bind_pure {Value Result : Type} {step : Build Value} (whole : Whole step)
    (form : Value → Result) : Whole (step >>= fun value => pure (form value)) := by
  intro graph fault
  rw [run_bind]
  cases ran : step.run graph with
  | mk outcome reached =>
    cases outcome with
    | ok value => exact fun refused => nomatch refused
    | error reason =>
      have unmoved : (step.run graph).2 = graph := whole graph reason (congrArg Prod.fst ran)
      rw [ran] at unmoved
      exact fun _ => unmoved

/-- **All that can fail in adding a method is done before the first change.** -/
theorem run_addNode (entries : List Gml.Entry) (graph : IndexedGraph) :
    (addNode entries).run graph =
      match (Gml.lookup entries "id").bind Gml.Value.int? with
      | none => (.error .methodWithoutId, graph)
      | some id =>
        match (Gml.lookup entries "label").bind Gml.Value.text? with
        | none => (.error (.methodWithoutLabel id), graph)
        | some label =>
          if graph.ids.contains id then (.error (.repeatedId id), graph)
          else (.ok (), graph.enter ⟨id, label⟩) := by
  rw [addNode, run_bind, run_require]
  cases (Gml.lookup entries "id").bind Gml.Value.int? with
  | none => rfl
  | some id =>
    dsimp only
    rw [run_bind, run_require]
    cases (Gml.lookup entries "label").bind Gml.Value.text? with
    | none => rfl
    | some label =>
      dsimp only
      have seen : (get : Build IndexedGraph).run graph = (.ok graph, graph) := rfl
      rw [run_bind, seen]
      dsimp only
      cases graph.ids.contains id with
      | true => rfl
      | false => rfl

theorem addNode_whole (entries : List Gml.Entry) : Whole (addNode entries) := by
  intro graph fault
  rw [run_addNode]
  cases (Gml.lookup entries "id").bind Gml.Value.int? with
  | none => exact fun _ => rfl
  | some id =>
    cases (Gml.lookup entries "label").bind Gml.Value.text? with
    | none => exact fun _ => rfl
    | some label =>
      dsimp only
      split
      · exact fun _ => rfl
      · exact fun added => nomatch added

/-- The identifier and the position that an `edge` list gives for an end. -/
def find (graph : IndexedGraph) (entries : List Gml.Entry) (side : CallEnd) :
    Except Fault (Int64 × Nat) :=
  match (Gml.lookup entries side.key).bind Gml.Value.int? with
  | none => .error (.callWithoutEnd side)
  | some id =>
    match graph.position? id with
    | none => .error (.unknownEnd side id)
    | some position => .ok (id, position)

theorem run_endpoint (entries : List Gml.Entry) (side : CallEnd) (graph : IndexedGraph) :
    (endpoint entries side).run graph = (graph.find entries side, graph) := by
  rw [endpoint, run_bind, run_require, find]
  cases (Gml.lookup entries side.key).bind Gml.Value.int? with
  | none => rfl
  | some id =>
    have seen : (get : Build IndexedGraph).run graph = (.ok graph, graph) := rfl
    dsimp only
    rw [run_bind, seen]
    dsimp only
    rw [run_bind, run_require]
    cases graph.position? id with
    | none => rfl
    | some position => rfl

/-- **Both ends of a call are found before the call is added.** -/
theorem run_addEdge (entries : List Gml.Entry) (graph : IndexedGraph) :
    (addEdge entries).run graph =
      match graph.find entries .source with
      | .error fault => (.error fault, graph)
      | .ok source =>
        match graph.find entries .target with
        | .error fault => (.error fault, graph)
        | .ok target => (.ok ⟨source.1, target.1⟩, graph.join source.2 target.2) := by
  rw [addEdge, run_bind, run_endpoint]
  cases graph.find entries .source with
  | error fault => rfl
  | ok source =>
    dsimp only
    rw [run_bind, run_endpoint]
    cases graph.find entries .target with
    | error fault => rfl
    | ok target => rfl

theorem addEdge_whole (entries : List Gml.Entry) : Whole (addEdge entries) := by
  intro graph fault
  rw [run_addEdge]
  cases graph.find entries .source with
  | error fault => exact fun _ => rfl
  | ok source =>
    dsimp only
    cases graph.find entries .target with
    | error fault => exact fun _ => rfl
    | ok target => exact fun added => nomatch added

/-! ### The same on both graphs -/

/-- A step on the tables comes out as one on the lists: both fail with the same fault, or both give
results that are related. -/
inductive Outcome {Value : Type} (Related : Value → IndexedGraph → CallGraph → Prop) :
    Except Fault Value × IndexedGraph → Except Fault CallGraph → Prop
  | ok {value : Value} {after : IndexedGraph} {longer : CallGraph} :
    Related value after longer → Outcome Related (.ok value, after) (.ok longer)
  | error {fault : Fault} {after : IndexedGraph} :
    Outcome Related (.error fault, after) (.error fault)

theorem Outcome.imp {Value : Type} {ran : Except Fault Value × IndexedGraph}
    {came : Except Fault CallGraph} {Related Weaker : Value → IndexedGraph → CallGraph → Prop}
    (outcome : Outcome Related ran came)
    (weaken : ∀ {value after longer}, Related value after longer → Weaker value after longer) :
    Outcome Weaker ran came := by
  cases outcome with
  | ok related => exact .ok (weaken related)
  | error => exact .error

theorem Outcome.fault {Value : Type} {ran : Except Fault Value × IndexedGraph} {fault : Fault}
    {Related : Value → IndexedGraph → CallGraph → Prop}
    (outcome : Outcome Related ran (.error fault)) : ran.1 = .error fault := by
  cases outcome with
  | error => rfl

theorem Outcome.bind {Value Result : Type} {first : Build Value} {next : Value → Build Result}
    {plainFirst : Except Fault CallGraph} {plainNext : CallGraph → Except Fault CallGraph}
    {Between : Value → IndexedGraph → CallGraph → Prop}
    {Related : Result → IndexedGraph → CallGraph → Prop}
    (begins : Outcome Between (first.run graph) plainFirst)
    (goesOn : ∀ {value reached plain}, Between value reached plain →
      Outcome Related ((next value).run reached) (plainNext plain)) :
    Outcome Related ((first >>= next).run graph) (plainFirst >>= plainNext) := by
  rw [run_bind]
  generalize first.run graph = ran at begins ⊢
  cases begins with
  | ok related => exact goesOn related
  | error => exact .error

/-- **What one step relates, a step for every item relates.** -/
theorem foldlM_outcome {State Item : Type} {step : State → Item → Build State}
    {plainStep : CallGraph → Item → Except Fault CallGraph}
    {Related : State → IndexedGraph → CallGraph → Prop}
    (each : ∀ {state graph plain} item, Related state graph plain →
      Outcome Related ((step state item).run graph) (plainStep plain item)) (items : List Item) :
    ∀ {state graph plain}, Related state graph plain →
      Outcome Related ((items.foldlM step state).run graph) (items.foldlM plainStep plain) := by
  induction items with
  | nil => exact fun related => .ok related
  | cons item items ih =>
    intro state graph plain related
    rw [List.foldlM_cons, List.foldlM_cons]
    exact (each item related).bind ih

/-- **A `node` list adds the same method to both.** -/
theorem addNode_outcome (represents : graph.Represents plain) (entries : List Gml.Entry) :
    Outcome (fun _ after longer => after.Represents longer ∧ longer.calls = plain.calls)
      ((addNode entries).run graph) (plain.addNode (.list entries)) := by
  rw [run_addNode, CallGraph.addNode]
  simp only [Gml.Value.list?]
  cases (Gml.lookup entries "id").bind Gml.Value.int? with
  | none => exact .error
  | some id =>
    dsimp only
    cases (Gml.lookup entries "label").bind Gml.Value.text? with
    | none => exact .error
    | some label =>
      dsimp only
      have known : plain.HasId id ↔ graph.ids.contains id = true := by
        rw [represents.hasId_iff, Std.HashMap.contains_eq_isSome_getElem?]
        rfl
      by_cases repeated : plain.HasId id
      · rw [dif_pos repeated, if_pos (known.mp repeated)]
        exact .error
      · rw [dif_neg repeated, if_neg (mt known.mpr repeated)]
        exact .ok ⟨represents.addMethod ⟨id, label⟩ repeated, rfl⟩

theorem Represents.find_eq (represents : graph.Represents plain) (entries : List Gml.Entry)
    (side : CallEnd) :
    (∃ fault, graph.find entries side = .error fault ∧ plain.readEnd entries side = .error fault) ∨
      ∃ known : { id // plain.HasId id }, ∃ position, graph.position? known.1 = some position ∧
        graph.find entries side = .ok (known.1, position) ∧
          plain.readEnd entries side = .ok known := by
  rw [find, CallGraph.readEnd]
  cases (Gml.lookup entries side.key).bind Gml.Value.int? with
  | none => exact .inl ⟨_, rfl, rfl⟩
  | some id =>
    dsimp only
    by_cases known : plain.HasId id
    · obtain ⟨position, found⟩ := Option.isSome_iff_exists.mp ((represents.hasId_iff id).mp known)
      exact .inr ⟨⟨id, known⟩, position, found, by rw [found], by rw [dif_pos known]⟩
    · have absent : graph.position? id = none := by
        rw [← Option.not_isSome_iff_eq_none, ← represents.hasId_iff]
        exact known
      exact .inl ⟨.unknownEnd side id, by rw [absent], by rw [dif_neg known]⟩

/-- **An `edge` list adds the same call to both**, or is no call of either. Only the lists know by
themselves whether a call is repeated. -/
theorem Represents.addEdge_cases (represents : graph.Represents plain) (entries : List Gml.Entry) :
    (∃ fault, (addEdge entries).run graph = (.error fault, graph) ∧
        ∀ multigraph, plain.addEdge multigraph (.list entries) = .error fault) ∨
      ∃ call after caller callee, (addEdge entries).run graph = (.ok call, after) ∧
        after.Represents (plain.addCall call caller callee) ∧
          ∀ multigraph, plain.addEdge multigraph (.list entries) =
            if !multigraph && plain.calls.contains call then .error (.repeatedCall call)
            else .ok (plain.addCall call caller callee) := by
  simp only [run_addEdge, CallGraph.addEdge, Gml.Value.list?]
  rcases represents.find_eq entries .source with
    ⟨fault, found, read⟩ | ⟨caller, first, source, found, read⟩
  · simp only [found, read]
    exact .inl ⟨fault, rfl, fun multigraph => rfl⟩
  simp only [found, read]
  rcases represents.find_eq entries .target with
    ⟨fault, found, read⟩ | ⟨callee, last, target, found, read⟩
  · simp only [found, read]
    exact .inl ⟨fault, rfl, fun multigraph => rfl⟩
  simp only [found, read]
  have placed : graph.place ⟨caller.1, callee.1⟩ = some (first, last) :=
    place_eq_some_iff.mpr ⟨source, target⟩
  exact .inr ⟨⟨caller.1, callee.1⟩, _, caller.2, callee.2, rfl,
    represents.addCall placed caller.2 callee.2, fun multigraph => rfl⟩

theorem addEdge_outcome (represents : graph.Represents plain) (entries : List Gml.Entry) :
    Outcome (fun call after longer =>
        after.Represents longer ∧ longer.calls = plain.calls ++ [call])
      ((addEdge entries).run graph) (plain.addEdge true (.list entries)) := by
  rcases represents.addEdge_cases entries with
    ⟨fault, failed, refused⟩ | ⟨call, after, caller, callee, ran, kept, joined⟩
  · rw [failed, refused]
    exact .error
  · rw [ran, joined]
    exact .ok ⟨kept, rfl⟩

/-! ### Documents -/

theorem addNodeEntry_outcome (represents : graph.Represents plain) (node : Gml.Value) :
    Outcome (fun _ after longer => after.Represents longer ∧ longer.calls = plain.calls)
      ((addNodeEntry node).run graph) (plain.addNode node) := by
  rw [addNodeEntry, run_bind, run_require]
  cases isList : node.list? with
  | none =>
    rw [CallGraph.addNode, isList]
    exact .error
  | some entries =>
    rw [Gml.Value.list?_eq_some_iff.mp isList]
    exact addNode_outcome represents entries

/-- The calls of a graph are those seen, if it matters. -/
def Seen (multigraph : Bool) (seen : Std.HashSet Call) (graph : IndexedGraph) (plain : CallGraph) :
    Prop :=
  graph.Represents plain ∧ (multigraph = false → ∀ call, call ∈ seen ↔ call ∈ plain.calls)

/-- **Whether a call is repeated**, the calls seen tell as well as the calls of the graph. -/
theorem addEdgeEntry_outcome {multigraph : Bool} {seen : Std.HashSet Call} (edge : Gml.Value)
    (related : Seen multigraph seen graph plain) :
    Outcome (Seen multigraph) ((addEdgeEntry multigraph seen edge).run graph)
      (plain.addEdge multigraph edge) := by
  rw [addEdgeEntry, run_bind, run_require]
  cases isList : edge.list? with
  | none =>
    rw [CallGraph.addEdge, isList]
    exact .error
  | some entries =>
    rw [Gml.Value.list?_eq_some_iff.mp isList]
    dsimp only
    rw [run_bind]
    rcases related.1.addEdge_cases entries with
      ⟨fault, failed, refused⟩ | ⟨call, after, caller, callee, ran, kept, joined⟩
    · rw [failed, refused]
      exact .error
    rw [ran, joined]
    dsimp only
    cases multigraph with
    | true => exact .ok ⟨kept, fun once => nomatch once⟩
    | false =>
      have same : plain.calls.contains call = seen.contains call := by
        rw [Bool.eq_iff_iff, List.contains_iff_mem, Std.HashSet.contains_iff_mem, related.2 rfl]
      rw [same]
      cases known : seen.contains call with
      | true => exact .error
      | false =>
        refine .ok ⟨kept, fun _ other => ?_⟩
        rw [Std.HashSet.mem_insert, related.2 rfl other, beq_iff_eq, CallGraph.addCall,
          List.mem_append, List.mem_singleton, or_comm, eq_comm]

theorem foldlM_addNodeEntry_outcome (nodes : List Gml.Value) :
    Outcome (fun _ after longer => after.Represents longer ∧ longer.calls = [])
      ((nodes.foldlM (fun _ node => addNodeEntry node) ()).run empty)
      (nodes.foldlM CallGraph.addNode CallGraph.empty) := by
  refine foldlM_outcome (fun node ⟨represents, uncalled⟩ => ?_) nodes ⟨empty_represents, rfl⟩
  exact (addNodeEntry_outcome represents node).imp fun ⟨kept, calls⟩ => ⟨kept, calls.trans uncalled⟩

/-- **A document is the same graph with tables and without**, or has the same fault. -/
theorem addDocument_outcome (document : Gml.Document) :
    Outcome (fun _ after longer => after.Represents longer) ((addDocument document).run empty)
      (CallGraph.ofDocument document) := by
  rw [addDocument, run_bind, CallGraph.ofDocument]
  cases CallGraph.graphEntries document with
  | error fault => exact .error
  | ok entries =>
    change Outcome _ ((if _ then _ else _ : Build Unit).run empty) (if _ then _ else _)
    cases CallGraph.isSet entries "directed" with
    | false => exact .error
    | true =>
      refine (foldlM_addNodeEntry_outcome _).bind fun ⟨represents, uncalled⟩ => ?_
      have unseen : Seen (CallGraph.isSet entries "multigraph") ∅ _ _ :=
        ⟨represents, fun _ call => by simp [uncalled]⟩
      have edges := foldlM_outcome addEdgeEntry_outcome (CallGraph.valuesOf entries "edge") unseen
      rw [← bind_pure (List.foldlM _ _ _)]
      exact edges.bind fun seen => .ok seen.1

/-- **The tables of a document are those of its graph.** -/
theorem ofDocument_represents (document : Gml.Document) :
    (∃ fault, ofDocument document = .error fault ∧
        CallGraph.ofDocument document = .error fault) ∨
      ∃ graph plain, ofDocument document = .ok graph ∧
        CallGraph.ofDocument document = .ok plain ∧ graph.Represents plain := by
  have outcome := addDocument_outcome document
  rw [ofDocument]
  generalize (addDocument document).run empty = ran, CallGraph.ofDocument document = came
    at outcome ⊢
  cases outcome with
  | ok represents => exact .inr ⟨_, _, rfl, rfl, represents⟩
  | error => exact .inl ⟨_, rfl, rfl⟩

theorem load_represents (source : List Char) :
    (∃ fault, load source = .error fault ∧ CallGraph.load source = .error fault) ∨
      ∃ graph plain, load source = .ok graph ∧ CallGraph.load source = .ok plain ∧
        graph.Represents plain := by
  rw [load, CallGraph.load]
  cases Gml.parse source with
  | error fault => exact .inl ⟨_, rfl, rfl⟩
  | ok document =>
    dsimp only
    rcases ofDocument_represents document with
      ⟨fault, refused, came⟩ | ⟨graph, plain, built, came, represents⟩
    · rw [refused, came]
      exact .inl ⟨_, rfl, rfl⟩
    · rw [built, came]
      exact .inr ⟨_, _, rfl, rfl, represents⟩

end ApkFeatures.IndexedGraph
