/-
**Callers that are found in the tables.**

A graph with tables that represents a graph without finds the same callers, in both ways. The
positions of the sensitive methods lead to the sensitive methods; the callers of a method, which the
tables list with the last call first, are its callers in another order; and no order counts.

* `enumeration_perm` — the tables list the callers of a method in some order.
* `mem_sensitive_iff`, `sensitive_eq` — the positions of the sensitive methods.
* `resolve_eq` — the callers of all sensitive methods.
* `callersOf_eq` — the callers of the methods with one label.
-/
import ApkFeatures.CallGraph.IndexedCallers
import ApkFeatures.Proofs.CallGraph.Additions
import ApkFeatures.Proofs.CallGraph.Resolution

namespace ApkFeatures.IndexedGraph

open CallGraph (callsAlong recordAlong resolveAlong)

variable {graph : IndexedGraph} {plain : CallGraph} {catalog : List String}

theorem filterMap_range {Item : Type} (items : List Item) :
    (List.range items.length).filterMap (items[·]?) = items := by
  induction items using List.reverseRecOn with
  | nil => rfl
  | append_singleton items item ih =>
    have kept : (List.range items.length).filterMap ((items ++ [item])[·]?) = items := by
      refine (List.filterMap_congr fun position member => ?_).trans ih
      exact List.getElem?_append_left (List.mem_range.mp member)
    rw [List.length_append, List.length_singleton, List.range_succ, List.filterMap_append, kept]
    simp

theorem label?_eq_some_iff {position : Nat} {label : String} :
    graph.label? position = some label ↔
      ∃ method, graph.method? position = some method ∧ method.label = label :=
  Option.map_eq_some_iff

/-- The callers of a method as the tables list them, the last call first. -/
def enumeration (graph : IndexedGraph) (callee : Method) : List Method :=
  ((graph.position? callee.id).toList.flatMap graph.callers).filterMap graph.method?

/-- The methods at the ends of a call. -/
def ends? (graph : IndexedGraph) (call : Nat × Nat) : Option (Method × Method) :=
  (graph.method? call.1).bind fun caller => (graph.method? call.2).map fun callee => (caller, callee)

namespace Represents

/-! ### Positions and methods -/

theorem method_mem (represents : graph.Represents plain) {position : Nat} {method : Method}
    (here : graph.method? position = some method) : method ∈ plain.methods := by
  rw [represents.method?_eq_getElem?] at here
  exact List.mem_of_getElem? here

theorem position?_id (represents : graph.Represents plain) {position : Nat} {method : Method}
    (here : graph.method? position = some method) :
    graph.position? method.id = some position := by
  rw [represents.position?_eq_some_iff, HasId, here]
  rfl

theorem enumeration_eq (represents : graph.Represents plain) {position : Nat} {method : Method}
    (here : graph.method? position = some method) :
    graph.enumeration method = (graph.callers position).filterMap graph.method? := by
  rw [enumeration, represents.position?_id here]
  simp

/-- **The tables list the callers of a method in some order.** -/
theorem enumeration_perm (represents : graph.Represents plain) (callee : Method) :
    (graph.enumeration callee).Perm (plain.callers callee) := by
  cases found : graph.position? callee.id with
  | none =>
    -- the ends of all calls are methods of the graph, and this is none
    have uncalled : plain.callsTo callee = [] := by
      refine List.filter_eq_nil_iff.mpr fun call member same => ?_
      have known := (represents.hasId_iff _).mp (plain.calls_closed call member).2
      rw [beq_iff_eq.mp same, found] at known
      cases known
    rw [enumeration, found, CallGraph.callers, uncalled]
    exact .nil
  | some position =>
    obtain ⟨method, here, named⟩ := Option.map_eq_some_iff.mp
      (represents.position?_eq_some_iff.mp found)
    have same : plain.callers callee = plain.callers method := by
      rw [CallGraph.callers, CallGraph.callsTo, ← named]
      rfl
    rw [same, enumeration, found, Option.toList_some, List.flatMap_singleton]
    exact represents.callers_perm here

/-! ### Sensitive methods -/

theorem mem_sensitive_iff (represents : graph.Represents plain) {position : Nat} :
    position ∈ graph.sensitive catalog ↔
      ∃ method ∈ plain.sensitive catalog, graph.method? position = some method := by
  simp only [sensitive, List.mem_filter, List.mem_range, Option.any_eq_true, label?_eq_some_iff,
    CallGraph.mem_sensitive_iff]
  constructor
  · rintro ⟨-, _, ⟨method, here, rfl⟩, counts⟩
    exact ⟨method, ⟨represents.method_mem here, counts⟩, here⟩
  · rintro ⟨method, ⟨-, counts⟩, here⟩
    refine ⟨?_, method.label, ⟨method, here, rfl⟩, counts⟩
    exact represents.position?_lt (represents.position?_id here)

theorem sensitive_eq (represents : graph.Represents plain) (catalog : List String) :
    (graph.sensitive catalog).filterMap graph.method? = plain.sensitive catalog := by
  have all : (List.range graph.size).filterMap graph.method? = plain.methods := by
    rw [represents.size_eq, funext represents.method?_eq_getElem?, filterMap_range]
  rw [CallGraph.sensitive, ← all, sensitive, List.filterMap_filter, List.filter_filterMap]
  refine List.filterMap_congr fun position _ => ?_
  rw [label?]
  cases graph.method? position with
  | none => simp
  | some method => simp [Option.filter]

/-- A caller at a position counts as the method does. -/
theorem filter_contains (represents : graph.Represents plain) (catalog : List String)
    (positions : List Nat) :
    (positions.filter ((graph.sensitive catalog).contains ·)).filterMap graph.method? =
      (positions.filterMap graph.method?).filter ((plain.sensitive catalog).contains ·) := by
  rw [List.filterMap_filter, List.filter_filterMap]
  refine List.filterMap_congr fun position _ => ?_
  cases here : graph.method? position with
  | none => simp
  | some method =>
    have same : (graph.sensitive catalog).contains position =
        (plain.sensitive catalog).contains method := by
      rw [Bool.eq_iff_iff, List.contains_iff_mem, List.contains_iff_mem,
        represents.mem_sensitive_iff, here]
      simp
    rw [same]
    rfl

/-! ### The callers of all sensitive methods -/

/-- **The calls between sensitive methods**, with the callers of each method as the tables list
them. -/
theorem sensitiveCalls_eq (represents : graph.Represents plain) (catalog : List String) :
    (graph.sensitiveCalls (graph.sensitive catalog)).filterMap graph.ends? =
      callsAlong graph.enumeration (plain.sensitive catalog) (plain.sensitive catalog) := by
  have into : ∀ callee ∈ graph.sensitive catalog,
      (((graph.callers callee).filter ((graph.sensitive catalog).contains ·)).map
          fun caller => (caller, callee)).filterMap graph.ends? =
        (graph.method? callee).toList.flatMap fun method =>
          ((graph.enumeration method).filter ((plain.sensitive catalog).contains ·)).map
            fun caller => (caller, method) := by
    intro callee member
    obtain ⟨method, -, here⟩ := represents.mem_sensitive_iff.mp member
    rw [here, Option.toList_some, List.flatMap_singleton, represents.enumeration_eq here,
      ← represents.filter_contains, List.filterMap_map, List.map_filterMap]
    refine List.filterMap_congr fun caller _ => ?_
    rw [Function.comp_apply, ends?, here]
    cases graph.method? caller with
    | none => rfl
    | some source => rfl
  have through : ∀ form : Method → List (Method × Method), (plain.sensitive catalog).flatMap form =
      (graph.sensitive catalog).flatMap fun callee => (graph.method? callee).toList.flatMap form := by
    intro form
    rw [← represents.sensitive_eq, List.filterMap_eq_flatMap_toList, List.flatMap_assoc]
  rw [callsAlong, through, sensitiveCalls, List.filterMap_flatMap]
  exact List.flatMap_congr into

/-- **One call records the same label and adds as much.** -/
theorem record_eq (represents : graph.Represents plain) (found : List String × Nat)
    {call : Nat × Nat} (member : call ∈ graph.sensitiveCalls (graph.sensitive catalog)) :
    ∃ ends, graph.ends? call = some ends ∧
      graph.record found call = recordAlong graph.enumeration found ends := by
  obtain ⟨callee, called, calls⟩ := List.mem_flatMap.mp member
  obtain ⟨caller, calling, rfl⟩ := List.mem_map.mp calls
  obtain ⟨source, -, there⟩ := represents.mem_sensitive_iff.mp
    (List.contains_iff_mem.mp (List.mem_filter.mp calling).2)
  obtain ⟨method, -, here⟩ := represents.mem_sensitive_iff.mp called
  have named : graph.label? caller = some source.label := label?_eq_some_iff.mpr ⟨_, there, rfl⟩
  have joined : graph.ends? (caller, callee) = some (source, method) := by
    simp [ends?, there, here]
  have weight : (graph.enumeration method).length = graph.inDegree callee := by
    rw [(represents.enumeration_perm method).length_eq, CallGraph.length_callers,
      represents.answers.inDegree callee method here]
  refine ⟨_, joined, ?_⟩
  rw [record, named, recordAlong, weight]

/-- **A run over some of the calls records the same labels and adds as much.** -/
theorem foldl_record_eq (represents : graph.Represents plain) {calls : List (Nat × Nat)}
    (part : calls ⊆ graph.sensitiveCalls (graph.sensitive catalog)) (found : List String × Nat) :
    calls.foldl graph.record found =
      (calls.filterMap graph.ends?).foldl (recordAlong graph.enumeration) found := by
  rw [List.foldl_filterMap]
  refine List.foldl_ext _ _ _ fun found call member => ?_
  obtain ⟨ends, joined, recorded⟩ := represents.record_eq found (part member)
  rw [recorded, joined]

/-- **The callers of all sensitive methods, and their weight, are those of the graph.** -/
theorem resolve_eq (represents : graph.Represents plain) (catalog : List String) :
    graph.resolve (graph.sensitive catalog) = plain.resolve (plain.sensitive catalog) := by
  have runs := represents.foldl_record_eq
    (List.Subset.refl (graph.sensitiveCalls (graph.sensitive catalog))) ([], 0)
  rw [← CallGraph.resolveAlong_eq represents.enumeration_perm, resolve, runs,
    represents.sensitiveCalls_eq]
  rfl

/-! ### The callers of one label -/

/-- **The callers of the methods with a label are those of the graph.** -/
theorem callersOf_eq (represents : graph.Represents plain) (catalog : List String)
    (label : String) :
    graph.callersOf (graph.sensitive catalog) label =
      plain.callersOf (plain.sensitive catalog) label := by
  refine ascending_congr fun found => ?_
  have labels : ∀ positions : List Nat, positions.filterMap graph.label? =
      (positions.filterMap graph.method?).map Method.label := fun positions =>
    List.map_filterMap.symm
  have sources : ∀ method, method ∈
        ((graph.labelled label).toList.flatMap graph.callers).filterMap graph.method? ↔
      method ∈ (plain.labelled label).flatMap plain.callers := by
    intro method
    rw [← represents.labelled_eq, List.filterMap_flatMap]
    rw [List.mem_flatMap, List.mem_flatMap]
    constructor
    · rintro ⟨position, listed, calls⟩
      obtain ⟨callee, here, -⟩ := Option.map_eq_some_iff.mp
        (represents.mem_labelled_iff.mp (Array.mem_toList_iff.mp listed))
      exact ⟨callee, List.mem_filterMap.mpr ⟨position, listed, here⟩,
        (represents.callers_perm here).mem_iff.mp calls⟩
    · rintro ⟨callee, known, calls⟩
      obtain ⟨position, listed, here⟩ := List.mem_filterMap.mp known
      exact ⟨position, listed, (represents.callers_perm here).mem_iff.mpr calls⟩
  rw [labels, represents.filter_contains]
  simp only [List.mem_map, List.mem_filter, sources]

end Represents

end ApkFeatures.IndexedGraph
