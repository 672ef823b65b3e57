/-
**Who is found to call sensitive methods.**

The labels of `resolve` are collected in an accumulator along all calls between sensitive methods.
What the accumulator holds does not depend on the order of the calls, on how often a call is given
or on which method of a label was met first: it holds the label of every caller.

* `mem_callers_iff` — the callers of a method are those of its calls.
* `mem_foldl_record_iff` — what a run of `record` has recorded.
* `mem_resolve_labels_iff` — a label is found if a sensitive method with this label calls a
  sensitive method.
-/
import Mathlib.Data.List.Nodup
import ApkFeatures.CallGraph.Callers

namespace ApkFeatures

theorem mem_ascending_iff {label : String} {labels : List String} :
    label ∈ ascending labels ↔ label ∈ labels := by
  rw [ascending, List.mem_mergeSort, List.mem_eraseDups]

namespace CallGraph

variable {graph : CallGraph} {catalog : List String}

/-- **Two methods of a graph with one identifier are the same.** -/
theorem eq_of_id_eq {method other : Method} (member : method ∈ graph.methods)
    (also : other ∈ graph.methods) (same : method.id = other.id) : method = other :=
  List.inj_on_of_nodup_map graph.ids_nodup member also same

theorem method?_eq_some_iff {id : Int64} {method : Method} :
    graph.method? id = some method ↔ method ∈ graph.methods ∧ method.id = id := by
  unfold method?
  constructor
  · intro found
    have named := List.find?_some found
    exact ⟨List.mem_of_find?_eq_some found, beq_iff_eq.mp named⟩
  · rintro ⟨member, rfl⟩
    cases found : graph.methods.find? fun other => other.id == method.id with
    | none =>
      have missing := List.find?_eq_none.mp found method member
      exact absurd (beq_self_eq_true _) missing
    | some other =>
      have named := List.find?_some found
      rw [eq_of_id_eq (List.mem_of_find?_eq_some found) member (beq_iff_eq.mp named)]

/-- **The callers of a method are the methods that its calls come from.** -/
theorem mem_callers_iff {caller callee : Method} :
    caller ∈ graph.callers callee ↔
      caller ∈ graph.methods ∧ ⟨caller.id, callee.id⟩ ∈ graph.calls := by
  unfold callers callsTo
  rw [List.mem_filterMap]
  constructor
  · rintro ⟨⟨source, target⟩, member, found⟩
    obtain ⟨call, toCallee⟩ := List.mem_filter.mp member
    obtain ⟨known, rfl⟩ := method?_eq_some_iff.mp found
    obtain rfl := beq_iff_eq.mp toCallee
    exact ⟨known, call⟩
  · rintro ⟨known, call⟩
    refine ⟨⟨caller.id, callee.id⟩, List.mem_filter.mpr ⟨call, beq_self_eq_true _⟩, ?_⟩
    exact method?_eq_some_iff.mpr ⟨known, rfl⟩

theorem mem_sensitive_iff {method : Method} :
    method ∈ graph.sensitive catalog ↔
      method ∈ graph.methods ∧ isSensitive catalog method.label = true :=
  List.mem_filter

theorem mem_sensitiveCalls_iff {sensitive : List Method} {caller callee : Method} :
    (caller, callee) ∈ graph.sensitiveCalls sensitive ↔
      callee ∈ sensitive ∧ caller ∈ sensitive ∧ caller ∈ graph.callers callee := by
  unfold sensitiveCalls
  simp only [List.mem_flatMap, List.mem_map, List.mem_filter, List.contains_iff_mem,
    Prod.mk.injEq]
  constructor
  · rintro ⟨callee, called, caller, ⟨calls, calling⟩, rfl, rfl⟩
    exact ⟨called, calling, calls⟩
  · rintro ⟨called, calling, calls⟩
    exact ⟨callee, called, caller, ⟨calls, calling⟩, rfl, rfl⟩

/-- **One call records the label of its caller and loses none.** -/
theorem mem_record_iff {found : List String × Nat} {call : Method × Method} {label : String} :
    label ∈ (graph.record found call).1 ↔ label ∈ found.1 ∨ label = call.1.label := by
  unfold record
  split
  · rename_i known
    rw [List.contains_iff_mem] at known
    constructor
    · exact Or.inl
    · rintro (old | rfl)
      · exact old
      · exact known
  · rw [List.mem_cons, or_comm]

/-- **A run records the labels of all callers.** -/
theorem mem_foldl_record_iff {calls : List (Method × Method)} {found : List String × Nat}
    {label : String} :
    label ∈ (calls.foldl graph.record found).1 ↔
      label ∈ found.1 ∨ ∃ call ∈ calls, label = call.1.label := by
  induction calls generalizing found with
  | nil => simp
  | cons call calls ih =>
    simp only [List.foldl_cons, ih, mem_record_iff, List.mem_cons, exists_eq_or_imp, or_assoc]

/-- **A label is found if a sensitive method with this label calls a sensitive method.** -/
theorem mem_resolve_labels_iff {label : String} :
    label ∈ (graph.resolve (graph.sensitive catalog)).labels ↔
      ∃ caller ∈ graph.methods, ∃ callee ∈ graph.methods,
        ⟨caller.id, callee.id⟩ ∈ graph.calls ∧ isSensitive catalog caller.label = true ∧
          isSensitive catalog callee.label = true ∧ caller.label = label := by
  show label ∈ ascending _ ↔ _
  rw [mem_ascending_iff, mem_foldl_record_iff]
  constructor
  · rintro (none | ⟨⟨caller, callee⟩, call, rfl⟩)
    · exact absurd none List.not_mem_nil
    · obtain ⟨called, calling, calls⟩ := mem_sensitiveCalls_iff.mp call
      rw [mem_sensitive_iff] at called calling
      exact ⟨caller, calling.1, callee, called.1, (mem_callers_iff.mp calls).2, calling.2,
        called.2, rfl⟩
  · rintro ⟨caller, member, callee, also, call, calling, called, rfl⟩
    refine Or.inr ⟨(caller, callee), mem_sensitiveCalls_iff.mpr ⟨?_, ?_, ?_⟩, rfl⟩
    · exact mem_sensitive_iff.mpr ⟨also, called⟩
    · exact mem_sensitive_iff.mpr ⟨member, calling⟩
    · exact mem_callers_iff.mpr ⟨member, call⟩

end CallGraph

end ApkFeatures
