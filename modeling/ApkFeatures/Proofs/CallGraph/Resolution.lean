/-
**What resolution finds, read off the graph.**

`resolve` goes through the calls of one sensitive method after the other and adds to a sum whenever
it meets a label for the first time. What it finds needs no account of that way: its labels are those
of the callers in calls between sensitive methods, and each of them weighs as many calls as there
are, from anywhere, to the first sensitive method that is called from it. So the order in which the
calls to a method are gone through does not count.

* `length_callers` — the callers of a method are as many as the calls to it.
* `resolveAlong` — resolution with the callers of each method enumerated in any order.
* `resolveAlong_eq` — the order does not change what is found.
* `resolve_spec` — the labels and the weight, and that they depend on no order.
-/
import Mathlib
import ApkFeatures.Proofs.CallGraph.Weight

namespace ApkFeatures

theorem ascending_pairwise (labels : List String) : (ascending labels).Pairwise (· < ·) := by
  have sorted : (ascending labels).Pairwise (· ≤ ·) := List.pairwise_mergeSort' (· ≤ ·) _
  exact (sorted.and (ascending_nodup labels)).imp fun pair => lt_of_le_of_ne pair.1 pair.2

namespace CallGraph

/-! ### Callers in any order -/

/-- Records a caller unless its label has been recorded, with the number of callers enumerated for
the method that it calls. -/
def recordAlong (enumeration : Method → List Method) (found : List String × Nat)
    (call : Method × Method) : List String × Nat :=
  if found.1.contains call.1.label then found
  else (call.1.label :: found.1, found.2 + (enumeration call.2).length)

/-- The callers of the sensitive methods, with the callers of each method enumerated in any order.
The enumeration is all that is known of the graph. -/
def resolveAlong (enumeration : Method → List Method) (sensitive : List Method) : Callers :=
  let (labels, weight) :=
    (callsAlong enumeration sensitive sensitive).foldl (recordAlong enumeration) ([], 0)
  ⟨ascending labels, weight⟩

section Order

variable {graph : CallGraph} {enumeration : Method → List Method}

/-- **The callers of a method are as many as the calls to it**, since every call of a graph has a
caller in the graph. -/
theorem length_callers (graph : CallGraph) (callee : Method) :
    (graph.callers callee).length = graph.inDegree callee := by
  unfold callers inDegree
  have known : ∀ call ∈ graph.callsTo callee, (graph.method? call.caller).isSome := by
    intro call member
    have closed := (graph.calls_closed call (List.mem_filter.mp member).1).1
    obtain ⟨method, listed, named⟩ := List.mem_map.mp closed
    rw [method?_eq_some_iff.mpr ⟨listed, named⟩]
    rfl
  generalize graph.callsTo callee = calls at known
  induction calls with
  | nil => rfl
  | cons call calls ih =>
    obtain ⟨caller, found⟩ := Option.isSome_iff_exists.mp (known call List.mem_cons_self)
    have rest := ih fun other member => known other (List.mem_cons_of_mem _ member)
    simp only [List.filterMap_cons, found, List.length_cons, rest]

variable (permuted : ∀ callee, (enumeration callee).Perm (graph.callers callee))

include permuted

theorem recordAlong_eq : recordAlong enumeration = graph.record := by
  funext found call
  unfold recordAlong record
  rw [(permuted call.2).length_eq, length_callers]

theorem mem_callsAlong_iff {sensitive callees : List Method} {call : Method × Method} :
    call ∈ callsAlong enumeration sensitive callees ↔
      call ∈ callsAlong graph.callers sensitive callees := by
  unfold callsAlong
  simp only [List.mem_flatMap, List.mem_map, List.mem_filter, (permuted _).mem_iff]

/-- The first call from a label goes to the same method. -/
theorem firstCallee?_permuted (sensitive callees : List Method) (label : String) :
    firstCallee? (callsAlong enumeration sensitive callees) label =
      firstCallee? (callsAlong graph.callers sensitive callees) label := by
  rw [firstCallee?_callsAlong, firstCallee?_callsAlong]
  congr 1
  funext callee
  exact (permuted callee).any_eq

/-- **The order of the callers does not change what is found.** -/
theorem resolveAlong_eq (sensitive : List Method) :
    resolveAlong enumeration sensitive = graph.resolve sensitive := by
  have labels : ascending ((callsAlong enumeration sensitive sensitive).foldl graph.record
      ([], 0)).1 = ascending ((graph.sensitiveCalls sensitive).foldl graph.record ([], 0)).1 :=
    ascending_congr fun label => by
      rw [mem_foldl_record_iff, mem_foldl_record_iff]
      simp only [mem_callsAlong_iff permuted]
      rfl
  unfold resolveAlong resolve
  rw [recordAlong_eq permuted, Callers.mk.injEq]
  refine ⟨labels, ?_⟩
  rw [foldl_record_weight_ascending, foldl_record_weight_ascending, labels]
  simp only [firstCallee?_permuted permuted]
  rfl

end Order

/-! ### What is found -/

/-- **A call between sensitive methods**, from the first to the second. -/
structure IsSensitiveCall (graph : CallGraph) (catalog : List String) (caller callee : Method) :
    Prop where
  /-- The caller is a method of the graph. -/
  caller_mem : caller ∈ graph.methods
  /-- The method that is called is one as well. -/
  callee_mem : callee ∈ graph.methods
  /-- The caller is sensitive. -/
  caller_sensitive : isSensitive catalog caller.label = true
  /-- The method that is called is sensitive. -/
  callee_sensitive : isSensitive catalog callee.label = true
  /-- The graph has a call from one to the other. -/
  call_mem : ⟨caller.id, callee.id⟩ ∈ graph.calls

/-- A sensitive method with the label calls this method, which is sensitive. -/
def IsReachedFrom (graph : CallGraph) (catalog : List String) (label : String) (callee : Method) :
    Prop :=
  ∃ caller, graph.IsSensitiveCall catalog caller callee ∧ caller.label = label

/-- **The first method of the graph that is reached from a label.** -/
def IsFirstFrom (graph : CallGraph) (catalog : List String) (label : String) (callee : Method) :
    Prop :=
  graph.IsReachedFrom catalog label callee ∧ ∃ before after,
    graph.methods = before ++ callee :: after ∧
      ∀ earlier ∈ before, ¬ graph.IsReachedFrom catalog label earlier

variable {graph : CallGraph} {catalog : List String}

theorem isReachedFrom_iff {label : String} {callee : Method} (member : callee ∈ graph.methods) :
    graph.IsReachedFrom catalog label callee ↔
      isSensitive catalog callee.label = true ∧
        graph.isCalledFrom (graph.sensitive catalog) label callee = true := by
  rw [isCalledFrom_iff]
  constructor
  · rintro ⟨caller, call, rfl⟩
    exact ⟨call.callee_sensitive, caller, call.caller_mem, call.call_mem,
      mem_sensitive_iff.mpr ⟨call.caller_mem, call.caller_sensitive⟩, rfl⟩
  · rintro ⟨called, caller, listed, call, calling, rfl⟩
    exact ⟨caller, ⟨listed, member, (mem_sensitive_iff.mp calling).2, called, call⟩, rfl⟩

/-- **A label is recorded at the first method that is reached from it.** -/
theorem isFirstFrom_of_recordedAt? {label : String} {callee : Method}
    (recorded : graph.recordedAt? (graph.sensitive catalog) label = some callee) :
    graph.IsFirstFrom catalog label callee := by
  unfold recordedAt? sensitive at recorded
  rw [List.find?_filter, List.find?_eq_some_iff_append] at recorded
  obtain ⟨reached, before, after, split, unreached⟩ := recorded
  have member : ∀ method ∈ before ++ callee :: after, method ∈ graph.methods :=
    fun method listed => split ▸ listed
  refine ⟨(isReachedFrom_iff (member callee (by simp))).mpr (of_decide_eq_true reached), before,
    after, split, fun earlier listed again => ?_⟩
  have missed := unreached earlier listed
  rw [Bool.not_eq_true', decide_eq_false_iff_not] at missed
  exact missed ((isReachedFrom_iff (member earlier (by simp [listed]))).mp again)

theorem mem_labels_iff {label : String} :
    label ∈ (graph.resolve (graph.sensitive catalog)).labels ↔
      ∃ caller callee, graph.IsSensitiveCall catalog caller callee ∧ caller.label = label := by
  rw [mem_resolve_labels_iff]
  constructor
  · rintro ⟨caller, member, callee, also, call, calling, called, rfl⟩
    exact ⟨caller, callee, ⟨member, also, calling, called, call⟩, rfl⟩
  · rintro ⟨caller, callee, call, rfl⟩
    exact ⟨caller, call.caller_mem, callee, call.callee_mem, call.call_mem, call.caller_sensitive,
      call.callee_sensitive, rfl⟩

/-- A label that is found has been recorded somewhere. -/
theorem exists_recordedAt? {label : String}
    (found : label ∈ (graph.resolve (graph.sensitive catalog)).labels) :
    ∃ callee, graph.recordedAt? (graph.sensitive catalog) label = some callee := by
  obtain ⟨caller, callee, call, rfl⟩ := mem_labels_iff.mp found
  have reached := (isReachedFrom_iff call.callee_mem).mp ⟨caller, call, rfl⟩
  refine Option.isSome_iff_exists.mp (List.find?_isSome.mpr ⟨callee, ?_, reached.2⟩)
  exact mem_sensitive_iff.mpr ⟨call.callee_mem, reached.1⟩

/-- **Resolution.** The labels, in ascending order and each once, are those of the callers in calls
between sensitive methods. The weight is a sum over these labels: each counts all calls of the
graph, parallel ones and those of other methods with them, to the first sensitive method that is
called from it by a sensitive one. Nothing of it depends on the order in which the callers of a
method are enumerated. -/
theorem resolve_spec (graph : CallGraph) (catalog : List String) :
    let found := graph.resolve (graph.sensitive catalog)
    found.labels.Pairwise (· < ·) ∧
      (∀ label, label ∈ found.labels ↔
        ∃ caller callee, graph.IsSensitiveCall catalog caller callee ∧ caller.label = label) ∧
      (∃ first : String → Method,
        (∀ label ∈ found.labels, graph.IsFirstFrom catalog label (first label)) ∧
          found.weightedInDegree = (found.labels.map fun label =>
            graph.calls.countP fun call => call.callee = (first label).id).sum) ∧
      ∀ enumeration : Method → List Method,
        (∀ callee, (enumeration callee).Perm (graph.callers callee)) →
          resolveAlong enumeration (graph.sensitive catalog) = found := by
  intro found
  refine ⟨ascending_pairwise _, fun label => mem_labels_iff, ?_, fun enumeration permuted =>
    resolveAlong_eq permuted _⟩
  refine ⟨fun label => (graph.recordedAt? (graph.sensitive catalog) label).getD ⟨0, label⟩,
    fun label member => ?_, ?_⟩
  · obtain ⟨callee, recorded⟩ := exists_recordedAt? member
    simp only [recorded, Option.getD_some]
    exact isFirstFrom_of_recordedAt? recorded
  · rw [show found.weightedInDegree = _ from weightedInDegree_eq_sum graph _]
    refine congrArg List.sum (List.map_congr_left fun label member => ?_)
    obtain ⟨callee, recorded⟩ := exists_recordedAt? member
    simp only [recorded, Option.elim_some, Option.getD_some]
    unfold inDegree callsTo
    rw [← List.countP_eq_length_filter]
    rfl

/-- Two methods with one label, a call that is made twice and one that comes from a method that is
not sensitive: whichever call comes first, the label counts three calls. -/
theorem resolve_spec_sample :
    let graph : CallGraph :=
      ⟨[⟨0, "Cipher;a"⟩, ⟨1, "SmsManager;b"⟩, ⟨2, "Other;c"⟩, ⟨3, "Cipher;a"⟩],
        [⟨0, 3⟩, ⟨3, 1⟩, ⟨2, 1⟩, ⟨1, 0⟩, ⟨3, 1⟩], by decide, by decide⟩
    (∀ callee, (graph.callers callee).reverse.Perm (graph.callers callee)) ∧
      resolveAlong (fun callee => (graph.callers callee).reverse)
        (graph.sensitive ["Cipher", "SmsManager"]) = ⟨["Cipher;a", "SmsManager;b"], 4⟩ := by
  intro graph
  have permuted : ∀ callee, (graph.callers callee).reverse.Perm (graph.callers callee) :=
    fun callee => List.reverse_perm _
  obtain ⟨-, -, -, order⟩ := resolve_spec graph ["Cipher", "SmsManager"]
  refine ⟨permuted, (order _ permuted).trans ?_⟩
  cbv

end CallGraph

end ApkFeatures
