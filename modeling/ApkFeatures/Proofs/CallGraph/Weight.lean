/-
**What the weighted in-degree counts.**

The weight grows only when a label is recorded for the first time, so it depends on the method where
that happens. It is the first sensitive method, in the order of the graph, that a sensitive method
with the label calls; the order of the calls does not count.

* `ascending_congr` — labels in ascending order are told by their set.
* `CallGraph.foldl_record_weight` — what a run of `record` has added up.
* `CallGraph.weightedInDegree_eq_sum` — the weight as a sum over the labels that are found.
-/
import Mathlib.Algebra.GroupWithZero.Nat
import Mathlib.Data.List.Induction
import Mathlib.Data.List.Sort
import ApkFeatures.Proofs.CallGraph.Callers

namespace ApkFeatures

/-! ### Labels in ascending order -/

theorem nodup_eraseDups (labels : List String) : labels.eraseDups.Nodup := by
  induction size : labels.length using Nat.strong_induction_on generalizing labels with
  | _ size ih =>
    cases labels with
    | nil => simp
    | cons label labels =>
      rw [List.eraseDups_cons, List.nodup_cons, List.mem_eraseDups]
      refine ⟨by simp, ih _ ?_ _ rfl⟩
      have shorter := List.length_filter_le (fun other => !other == label) labels
      rw [List.length_cons] at size
      omega

theorem ascending_perm (labels : List String) : (ascending labels).Perm labels.eraseDups :=
  List.mergeSort_perm _ _

theorem ascending_nodup (labels : List String) : (ascending labels).Nodup :=
  (ascending_perm labels).nodup_iff.mpr (nodup_eraseDups labels)

/-- **The same labels are the same list in ascending order.** -/
theorem ascending_congr {labels others : List String}
    (same : ∀ label, label ∈ labels ↔ label ∈ others) : ascending labels = ascending others := by
  have perm : (ascending labels).Perm (ascending others) := by
    rw [List.perm_ext_iff_of_nodup (ascending_nodup _) (ascending_nodup _)]
    intro label
    rw [mem_ascending_iff, mem_ascending_iff, same]
  exact perm.eq_of_pairwise' (List.pairwise_mergeSort' (· ≤ ·) _)
    (List.pairwise_mergeSort' (· ≤ ·) _)

namespace CallGraph

variable {graph : CallGraph}

/-! ### A run over calls -/

/-- Where the first call from a method with the label goes. -/
def firstCallee? (calls : List (Method × Method)) (label : String) : Option Method :=
  (calls.find? fun call => call.1.label == label).map Prod.snd

theorem firstCallee?_append_of_mem {calls : List (Method × Method)} {label : String}
    (known : ∃ call ∈ calls, label = call.1.label) (more : List (Method × Method)) :
    firstCallee? (calls ++ more) label = firstCallee? calls label := by
  obtain ⟨call, member, rfl⟩ := known
  unfold firstCallee?
  rw [List.find?_append]
  cases found : calls.find? fun other => other.1.label == call.1.label with
  | none => exact absurd (beq_self_eq_true _) (List.find?_eq_none.mp found call member)
  | some first => rfl

theorem firstCallee?_concat_of_not_mem {calls : List (Method × Method)} {call : Method × Method}
    (fresh : ¬ ∃ other ∈ calls, call.1.label = other.1.label) :
    firstCallee? (calls ++ [call]) call.1.label = some call.2 := by
  have unknown : (calls.find? fun other => other.1.label == call.1.label) = none := by
    rw [List.find?_eq_none]
    exact fun other member same => fresh ⟨other, member, (beq_iff_eq.mp same).symm⟩
  unfold firstCallee?
  rw [List.find?_append, unknown]
  simp

/-- **A run adds every label once**, with the calls to the method that the first call from the label
goes to. -/
theorem foldl_record_weight (graph : CallGraph) (calls : List (Method × Method)) :
    (calls.foldl graph.record ([], 0)).1.Nodup ∧
      (calls.foldl graph.record ([], 0)).2 = ((calls.foldl graph.record ([], 0)).1.map fun label =>
        (firstCallee? calls label).elim 0 graph.inDegree).sum := by
  induction calls using List.reverseRecOn with
  | nil => exact ⟨List.nodup_nil, rfl⟩
  | append_singleton calls call ih =>
    have recorded : ∀ label, label ∈ (calls.foldl graph.record ([], 0)).1 ↔
        ∃ other ∈ calls, label = other.1.label := fun label => by
      rw [mem_foldl_record_iff]
      exact or_iff_right List.not_mem_nil
    obtain ⟨distinct, weight⟩ := ih
    rw [List.foldl_concat]
    generalize calls.foldl graph.record ([], 0) = found at recorded distinct weight
    -- what has been recorded keeps its place when the call is added
    have kept : (found.1.map fun label =>
          (firstCallee? (calls ++ [call]) label).elim 0 graph.inDegree) =
        found.1.map fun label => (firstCallee? calls label).elim 0 graph.inDegree :=
      List.map_congr_left fun label member => by
        rw [firstCallee?_append_of_mem ((recorded label).mp member)]
    unfold record
    split
    · exact ⟨distinct, by rw [kept, weight]⟩
    · rename_i unknown
      rw [List.contains_iff_mem] at unknown
      have fresh := firstCallee?_concat_of_not_mem (mt (recorded call.1.label).mpr unknown)
      refine ⟨List.nodup_cons.mpr ⟨unknown, distinct⟩, ?_⟩
      rw [List.map_cons, List.sum_cons, fresh, kept, weight, Nat.add_comm]
      rfl

/-- **The weight of a run is a sum over the labels in ascending order.** -/
theorem foldl_record_weight_ascending (graph : CallGraph) (calls : List (Method × Method)) :
    (calls.foldl graph.record ([], 0)).2 =
      ((ascending (calls.foldl graph.record ([], 0)).1).map fun label =>
        (firstCallee? calls label).elim 0 graph.inDegree).sum := by
  obtain ⟨distinct, weight⟩ := foldl_record_weight graph calls
  generalize calls.foldl graph.record ([], 0) = found at distinct weight
  have perm : (ascending found.1).Perm found.1 := by
    rw [List.perm_ext_iff_of_nodup (ascending_nodup _) distinct]
    exact fun label => mem_ascending_iff
  rw [weight]
  exact (perm.map _).sum_nat.symm

/-! ### The weight of a graph -/

/-- The method is called by a sensitive method with the label. -/
def isCalledFrom (graph : CallGraph) (sensitive : List Method) (label : String)
    (callee : Method) : Bool :=
  (graph.callers callee).any fun caller => sensitive.contains caller && caller.label == label

/-- **Where a label is recorded**: at the first sensitive method that is called from it. -/
def recordedAt? (graph : CallGraph) (sensitive : List Method) (label : String) : Option Method :=
  sensitive.find? (graph.isCalledFrom sensitive label)

theorem isCalledFrom_iff {sensitive : List Method} {label : String} {callee : Method} :
    graph.isCalledFrom sensitive label callee = true ↔
      ∃ caller ∈ graph.methods, ⟨caller.id, callee.id⟩ ∈ graph.calls ∧ caller ∈ sensitive ∧
        caller.label = label := by
  unfold isCalledFrom
  simp only [List.any_eq_true, mem_callers_iff, Bool.and_eq_true, List.contains_iff_mem,
    beq_iff_eq, and_assoc]

/-- The calls between sensitive methods to some of them, with the callers of each in some order. -/
def callsAlong (enumeration : Method → List Method) (sensitive callees : List Method) :
    List (Method × Method) :=
  callees.flatMap fun callee =>
    ((enumeration callee).filter (sensitive.contains ·)).map fun caller => (caller, callee)

/-- The calls to one method all go to it. -/
theorem firstCallee?_callers (sensitive callers : List Method) (label : String) (callee : Method) :
    firstCallee? ((callers.filter (sensitive.contains ·)).map fun caller => (caller, callee))
        label =
      if callers.any fun caller => sensitive.contains caller && caller.label == label then
        some callee
      else none := by
  unfold firstCallee?
  induction callers with
  | nil => rfl
  | cons caller callers ih =>
    rw [List.any_cons, List.filter_cons]
    cases sensitive.contains caller with
    | false => simpa using ih
    | true =>
      rw [if_pos rfl, List.map_cons, List.find?_cons, Bool.true_and]
      cases caller.label == label with
      | false => simpa using ih
      | true => rfl

/-- **The calls are gone through by the method that is called**, so the first call from a label goes
to the first method that is called from it. The methods that are gone through get fewer along the
list, those that count as sensitive do not. -/
theorem firstCallee?_callsAlong (enumeration : Method → List Method) (sensitive : List Method)
    (label : String) (callees : List Method) :
    firstCallee? (callsAlong enumeration sensitive callees) label =
      callees.find? fun callee => (enumeration callee).any fun caller =>
        sensitive.contains caller && caller.label == label := by
  unfold callsAlong
  induction callees with
  | nil => rfl
  | cons callee callees ih =>
    have first := firstCallee?_callers sensitive (enumeration callee) label callee
    unfold firstCallee? at first ih ⊢
    rw [List.flatMap_cons, List.find?_append, Option.map_or, first, ih, List.find?_cons]
    cases (enumeration callee).any fun caller =>
        sensitive.contains caller && caller.label == label with
    | true => rfl
    | false => rfl

theorem firstCallee?_sensitiveCalls (graph : CallGraph) (sensitive : List Method)
    (label : String) :
    firstCallee? (graph.sensitiveCalls sensitive) label = graph.recordedAt? sensitive label :=
  firstCallee?_callsAlong graph.callers sensitive label sensitive

/-- **The same labels are found in the same list.** -/
theorem labels_congr {other : CallGraph} {sensitive sensitive' : List Method}
    (same : ∀ label, label ∈ (graph.resolve sensitive).labels ↔
      label ∈ (other.resolve sensitive').labels) :
    (graph.resolve sensitive).labels = (other.resolve sensitive').labels :=
  ascending_congr fun label =>
    (mem_ascending_iff.symm.trans (same label)).trans mem_ascending_iff

/-- **The weighted in-degree is a sum over the labels that are found.** -/
theorem weightedInDegree_eq_sum (graph : CallGraph) (sensitive : List Method) :
    (graph.resolve sensitive).weightedInDegree =
      ((graph.resolve sensitive).labels.map fun label =>
        (graph.recordedAt? sensitive label).elim 0 graph.inDegree).sum := by
  have weight := foldl_record_weight_ascending graph (graph.sensitiveCalls sensitive)
  simp only [firstCallee?_sensitiveCalls] at weight
  exact weight

end CallGraph

end ApkFeatures
