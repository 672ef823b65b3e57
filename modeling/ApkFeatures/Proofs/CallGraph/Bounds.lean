/-
**How large the weighted in-degree can be.**

A call adds the calls to the method it leads to, and only if it records a label. So a run adds at
least one for every label; and at a method it is gone through at most as often as there are calls to
the method, so the method adds at most the square of that number. The calls to all methods are the
calls of the graph, and the square of a sum is no less than the sum of the squares. What bounds a
whole run bounds the sum after each of its steps.

* `weight_record_le`, `weight_foldl_record_le` — what a step adds, and what a run adds.
* `length_foldl_record_le` — a run adds at least one for every label.
* `sum_callsAlong_le` — what all calls between sensitive methods add.
* `sum_inDegree_methods` — every call of a graph is a call to one of its methods.
* `SumStaysBelow` — a bound for the sum at every point of a run.
* `resolve_bounds` — all of it, for the callers of a graph.
-/
import Mathlib
import ApkFeatures.Proofs.CallGraph.IndexedCallers

namespace ApkFeatures

/-- No more labels are found than there were. -/
theorem length_ascending_le (labels : List String) : (ascending labels).length ≤ labels.length :=
  ((ascending_nodup labels).subperm fun _ member => mem_ascending_iff.mp member).length_le

namespace CallGraph

variable {graph : CallGraph}

/-! ### What a run adds -/

/-- **A call adds at most the calls to the method it leads to.** -/
theorem weight_record_le (found : List String × Nat) (call : Method × Method) :
    (graph.record found call).2 ≤ found.2 + graph.inDegree call.2 := by
  unfold record
  split
  · exact Nat.le_add_right _ _
  · exact Nat.le_refl _

theorem weight_foldl_record_le (calls : List (Method × Method)) :
    ∀ found : List String × Nat, (calls.foldl graph.record found).2 ≤
      found.2 + (calls.map fun call => graph.inDegree call.2).sum := by
  induction calls with
  | nil => exact fun found => Nat.le_refl _
  | cons call calls ih =>
    intro found
    calc (calls.foldl graph.record (graph.record found call)).2
        ≤ (graph.record found call).2 + (calls.map fun call => graph.inDegree call.2).sum := ih _
      _ ≤ found.2 + graph.inDegree call.2 + (calls.map fun call => graph.inDegree call.2).sum :=
          Nat.add_le_add_right (weight_record_le found call) _
      _ = found.2 + ((call :: calls).map fun call => graph.inDegree call.2).sum := by
          rw [List.map_cons, List.sum_cons, Nat.add_assoc]

/-- A call to a method that is called adds at least one for the label that it records. -/
theorem length_record_le {found : List String × Nat} {call : Method × Method}
    (called : 0 < graph.inDegree call.2) (bounded : found.1.length ≤ found.2) :
    (graph.record found call).1.length ≤ (graph.record found call).2 := by
  unfold record
  split
  · exact bounded
  · rw [List.length_cons]
    exact Nat.add_le_add bounded called

/-- **A run adds at least one for every label that it records.** -/
theorem length_foldl_record_le {calls : List (Method × Method)}
    (called : ∀ call ∈ calls, 0 < graph.inDegree call.2) :
    ∀ {found : List String × Nat}, found.1.length ≤ found.2 →
      (calls.foldl graph.record found).1.length ≤ (calls.foldl graph.record found).2 := by
  induction calls with
  | nil => exact fun bounded => bounded
  | cons call calls ih =>
    intro found bounded
    exact ih (fun other member => called other (List.mem_cons_of_mem _ member))
      (length_record_le (called call List.mem_cons_self) bounded)

/-! ### Calls to methods -/

/-- A method that has a caller is called. -/
theorem inDegree_pos {caller callee : Method} (calls : caller ∈ graph.callers callee) :
    0 < graph.inDegree callee := by
  rw [← length_callers]
  exact List.length_pos_of_mem calls

/-- **Every call of a graph is a call to one of its methods.** -/
theorem sum_inDegree_methods (graph : CallGraph) :
    (graph.methods.map graph.inDegree).sum = graph.calls.length := by
  have each : graph.methods.map graph.inDegree =
      (graph.methods.map Method.id).map fun id => (graph.calls.map Call.callee).count id := by
    rw [List.map_map]
    refine List.map_congr_left fun method _ => ?_
    rw [inDegree, callsTo, ← List.countP_eq_length_filter, Function.comp_apply, List.count,
      List.countP_map]
    rfl
  have closed : ∀ callee ∈ (graph.calls.map Call.callee : Multiset Int64),
      callee ∈ (graph.methods.map Method.id).toFinset := by
    intro callee member
    obtain ⟨call, called, rfl⟩ := List.mem_map.mp (Multiset.mem_coe.mp member)
    exact List.mem_toFinset.mpr (graph.calls_closed call called).2
  rw [each, ← List.sum_toFinset _ graph.ids_nodup]
  simpa using Multiset.sum_count_eq_card closed

theorem sum_inDegree_le {methods : List Method} (part : methods.Sublist graph.methods) :
    (methods.map graph.inDegree).sum ≤ graph.calls.length := by
  rw [← sum_inDegree_methods]
  exact (part.map _).sum_le_sum fun _ _ => Nat.zero_le _

theorem inDegree_le (graph : CallGraph) (callee : Method) :
    graph.inDegree callee ≤ graph.calls.length :=
  List.length_filter_le _ _

/-- **The squares of the numbers of calls to some methods add up to at most the square of the number
of all calls.** -/
theorem sum_inDegree_sq_le {methods : List Method} (part : methods.Sublist graph.methods) :
    (methods.map fun callee => graph.inDegree callee ^ 2).sum ≤ graph.calls.length ^ 2 := by
  calc (methods.map fun callee => graph.inDegree callee ^ 2).sum
      ≤ (methods.map fun callee => graph.calls.length * graph.inDegree callee).sum := by
        refine List.sum_le_sum fun callee _ => ?_
        rw [pow_two]
        exact Nat.mul_le_mul_right _ (graph.inDegree_le callee)
    _ = graph.calls.length * (methods.map graph.inDegree).sum := List.sum_map_mul_left ..
    _ ≤ graph.calls.length ^ 2 := by
        rw [pow_two]
        exact Nat.mul_le_mul_left _ (sum_inDegree_le part)

section Order

variable {enumeration : Method → List Method}
  (permuted : ∀ callee, (enumeration callee).Perm (graph.callers callee))

include permuted

/-- The calls to one method lead to it as often as it is called, at most. -/
theorem sum_callers_le (sensitive : List Method) (callee : Method) :
    ((((enumeration callee).filter (sensitive.contains ·)).map fun caller => (caller, callee)).map
      fun call => graph.inDegree call.2).sum ≤ graph.inDegree callee ^ 2 := by
  have fewer : ((enumeration callee).filter (sensitive.contains ·)).length ≤
      graph.inDegree callee := by
    rw [← length_callers, ← (permuted callee).length_eq]
    exact List.length_filter_le _ _
  simp only [List.map_map, Function.comp_def, List.map_const', List.sum_replicate, smul_eq_mul,
    pow_two]
  exact Nat.mul_le_mul_right _ fewer

/-- **All calls between sensitive methods add at most the squares.** -/
theorem sum_callsAlong_le (sensitive callees : List Method) :
    ((callsAlong enumeration sensitive callees).map fun call => graph.inDegree call.2).sum ≤
      (callees.map fun callee => graph.inDegree callee ^ 2).sum := by
  unfold callsAlong
  induction callees with
  | nil => exact Nat.le_refl _
  | cons callee callees ih =>
    rw [List.flatMap_cons, List.map_append, List.sum_append, List.map_cons, List.sum_cons]
    exact Nat.add_le_add (sum_callers_le permuted sensitive callee) ih

/-- **At every point of a run** the sum is at most what all calls may add. -/
theorem weight_foldl_recordAlong_le {sensitive : List Method} {calls : List (Method × Method)}
    (done : calls <+: callsAlong enumeration sensitive sensitive) :
    (calls.foldl (recordAlong enumeration) ([], 0)).2 ≤
      (sensitive.map fun callee => graph.inDegree callee ^ 2).sum := by
  rw [recordAlong_eq permuted]
  calc (calls.foldl graph.record ([], 0)).2
      ≤ 0 + (calls.map fun call => graph.inDegree call.2).sum := weight_foldl_record_le calls _
    _ = (calls.map fun call => graph.inDegree call.2).sum := Nat.zero_add _
    _ ≤ ((callsAlong enumeration sensitive sensitive).map fun call => graph.inDegree call.2).sum :=
        (done.sublist.map _).sum_le_sum fun _ _ => Nat.zero_le _
    _ ≤ _ := sum_callsAlong_le permuted sensitive sensitive

end Order

/-- **The sum of a run stays below a bound**, at the start and after each of its steps. -/
def SumStaysBelow {Item : Type} (step : List String × Nat → Item → List String × Nat)
    (items : List Item) (bound : Nat) : Prop :=
  ∀ done, done <+: items → (done.foldl step ([], 0)).2 < bound

/-- **The weighted in-degree is bounded.** It is no less than the number of labels that are found and
no more than the sum, over the sensitive methods, of the square of the number of calls to each; this
is at most the square of the number of all calls. With less than 2³² calls the sum stays in 64 bits at
every point of the run, whether the callers of a method are taken in the order of the calls or as the
tables list them, the last call first. -/
theorem resolve_bounds (graph : CallGraph) (catalog : List String) :
    let sensitive := graph.sensitive catalog
    let found := graph.resolve sensitive
    let squares := (sensitive.map fun callee => graph.inDegree callee ^ 2).sum
    found.labels.length ≤ found.weightedInDegree ∧
    found.weightedInDegree ≤ squares ∧
    squares ≤ graph.calls.length ^ 2 ∧
    (graph.calls.length < 2 ^ 32 →
      SumStaysBelow graph.record (graph.sensitiveCalls sensitive) (2 ^ 64)) ∧
    ∀ tables : IndexedGraph, tables.Represents graph →
      tables.resolve (tables.sensitive catalog) = found ∧
      (graph.calls.length < 2 ^ 32 →
        SumStaysBelow tables.record (tables.sensitiveCalls (tables.sensitive catalog)) (2 ^ 64)) := by
  intro sensitive found squares
  have inOrder (callee : Method) : (graph.callers callee).Perm (graph.callers callee) := .refl _
  have square : squares ≤ graph.calls.length ^ 2 := sum_inDegree_sq_le List.filter_sublist
  have small (few : graph.calls.length < 2 ^ 32) : squares < 2 ^ 64 :=
    calc squares ≤ graph.calls.length ^ 2 := square
      _ < (2 ^ 32) ^ 2 := Nat.pow_lt_pow_left few (by decide)
      _ = 2 ^ 64 := by decide
  have within {calls : List (Method × Method)} (done : calls <+: graph.sensitiveCalls sensitive) :
      (calls.foldl graph.record ([], 0)).2 ≤ squares := by
    rw [← recordAlong_eq inOrder]
    exact weight_foldl_recordAlong_le inOrder done
  have called : ∀ call ∈ graph.sensitiveCalls sensitive, 0 < graph.inDegree call.2 :=
    fun _ member => inDegree_pos (mem_sensitiveCalls_iff.mp member).2.2
  refine ⟨?_, within (List.prefix_refl _), square,
    fun few done part => (within part).trans_lt (small few),
    fun tables represents => ⟨represents.resolve_eq catalog, fun few done part => ?_⟩⟩
  · exact (length_ascending_le _).trans (length_foldl_record_le called (Nat.le_refl 0))
  · -- the calls at the positions so far are those that the enumeration of the tables begins with
    have begins := part.filterMap tables.ends?
    rw [represents.sensitiveCalls_eq] at begins
    rw [represents.foldl_record_eq part.subset]
    exact (weight_foldl_recordAlong_le represents.enumeration_perm begins).trans_lt (small few)

/-- Two methods with one label, a call that is made twice and one from a method that is not sensitive:
two labels, a weight of four, the squares one, nine and one, and five calls. -/
theorem resolve_bounds_sample :
    let graph : CallGraph :=
      ⟨[⟨0, "Cipher;a"⟩, ⟨1, "SmsManager;b"⟩, ⟨2, "Other;c"⟩, ⟨3, "Cipher;a"⟩],
        [⟨0, 3⟩, ⟨3, 1⟩, ⟨2, 1⟩, ⟨1, 0⟩, ⟨3, 1⟩], by decide, by decide⟩
    let sensitive := graph.sensitive ["Cipher", "SmsManager"]
    let found := graph.resolve sensitive
    found = ⟨["Cipher;a", "SmsManager;b"], 4⟩ ∧ graph.calls.length < 2 ^ 32 ∧
      found.labels.length ≤ found.weightedInDegree ∧ found.weightedInDegree ≤ 11 ∧ 11 ≤ 5 ^ 2 ∧
      SumStaysBelow graph.record (graph.sensitiveCalls sensitive) (2 ^ 64) := by
  intro graph sensitive found
  obtain ⟨labels, weight, squares, stays, -⟩ := resolve_bounds graph ["Cipher", "SmsManager"]
  have resolved : found = ⟨["Cipher;a", "SmsManager;b"], 4⟩ := by
    show graph.resolve (graph.sensitive ["Cipher", "SmsManager"]) = _
    cbv
  have few : graph.calls.length < 2 ^ 32 := by decide
  have eleven : (sensitive.map fun callee => graph.inDegree callee ^ 2).sum = 11 := by
    decide +kernel
  exact ⟨resolved, few, labels, eleven ▸ weight, eleven ▸ squares, stays few⟩

end CallGraph

end ApkFeatures
