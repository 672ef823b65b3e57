/-
**Which documents are call graphs.**

The methods are read first and the calls after them. What one entry does is a lemma of its own, for
the graph it gives and for the fault it has; a run over all entries stops at the first fault.

* `addNode_eq_ok_iff`, `addNode_eq_error_iff` — what one `node` entry does, and the same for an
  `edge` entry in `addEdge_eq_ok_iff`, `addEdge_eq_error_iff`.
* `ofDocument_eq_ok_iff`, `ofDocument_eq_error_iff` — the graphs and the faults of documents.
* `load_spec` — the same for the text of a file.
-/
import Mathlib.Data.List.Nodup
import ApkFeatures.Proofs.Fallible
import ApkFeatures.Proofs.CallGraph.Description

namespace ApkFeatures.CallGraph

open Gml Fallible

/-! ### One `node` entry -/

/-- **A `node` entry adds the method it describes**, if its identifier is new. -/
theorem addNode_eq_ok_iff {graph longer : CallGraph} {node : Value} :
    graph.addNode node = .ok longer ↔
      ∃ method, ∃ fresh : ¬ graph.HasId method.id,
        DescribesMethod node method ∧ longer = graph.addMethod method fresh := by
  unfold addNode
  constructor
  · intro added
    split at added
    · cases added
    rename_i entries isList
    split at added
    · cases added
    rename_i id first
    split at added
    · cases added
    rename_i label named
    split at added
    · cases added
    rename_i fresh
    cases added
    exact ⟨⟨id, label⟩, fresh, ⟨entries, Value.list?_eq_some_iff.mp isList,
      lookup_int_eq_some_iff.mp first, lookup_text_eq_some_iff.mp named⟩, rfl⟩
  · rintro ⟨method, fresh, ⟨entries, rfl, first, named⟩, rfl⟩
    simp only [Value.list?, lookup_int_eq_some_iff.mpr first, lookup_text_eq_some_iff.mpr named]
    rw [dif_neg fresh]

/-- **What is wrong with a `node` entry is what is reported.** -/
theorem addNode_eq_error_iff {graph : CallGraph} {node : Value} {fault : Fault} :
    graph.addNode node = .error fault ↔ NodeFault (graph.methods.map Method.id) node fault := by
  unfold addNode
  constructor
  · intro refused
    split at refused
    · rename_i noList
      cases refused
      exact .notList (Value.list?_eq_none_iff.mp noList)
    rename_i entries isList
    rw [Value.list?_eq_some_iff.mp isList]
    split at refused
    · rename_i noId
      cases refused
      exact .withoutId (lookup_int_eq_none_iff.mp noId)
    rename_i id first
    have identified := lookup_int_eq_some_iff.mp first
    split at refused
    · rename_i noLabel
      cases refused
      exact .withoutLabel identified (lookup_text_eq_none_iff.mp noLabel)
    rename_i label named
    have labelled := lookup_text_eq_some_iff.mp named
    split at refused
    · rename_i known
      cases refused
      have described : DescribesMethod (.list entries) ⟨id, label⟩ :=
        ⟨entries, rfl, identified, labelled⟩
      exact .repeated described known
    · cases refused
  · intro bad
    cases bad with
    | notList noList => rw [Value.list?_eq_none_iff.mpr noList]
    | withoutId noId => simp only [Value.list?, lookup_int_eq_none_iff.mpr noId]
    | withoutLabel first noLabel =>
      simp only [Value.list?, lookup_int_eq_some_iff.mpr first,
        lookup_text_eq_none_iff.mpr noLabel]
    | @repeated entries method described again =>
      obtain ⟨_, same, first, named⟩ := described
      cases same
      have known : graph.HasId method.id := again
      simp only [Value.list?, lookup_int_eq_some_iff.mpr first, lookup_text_eq_some_iff.mpr named]
      rw [dif_pos known]

/-! ### One `edge` entry -/

theorem readEnd_eq_ok_iff {graph : CallGraph} {entries : List Gml.Entry} {side : CallEnd}
    {found : { id : Int64 // graph.HasId id }} :
    graph.readEnd entries side = .ok found ↔ First entries side.key (.int found.1) := by
  unfold readEnd
  constructor
  · intro read
    split at read
    · cases read
    rename_i id first
    split at read
    · cases read
      exact lookup_int_eq_some_iff.mp first
    · cases read
  · intro first
    rw [lookup_int_eq_some_iff.mpr first]
    dsimp only
    rw [dif_pos found.2]

theorem readEnd_eq_error_iff {graph : CallGraph} {entries : List Gml.Entry} {side : CallEnd}
    {fault : Fault} :
    graph.readEnd entries side = .error fault ↔
      EndFault (graph.methods.map Method.id) entries side fault := by
  unfold readEnd
  constructor
  · intro refused
    split at refused
    · rename_i noEnd
      cases refused
      exact .absent (lookup_int_eq_none_iff.mp noEnd)
    · rename_i id first
      split at refused
      · cases refused
      · rename_i stray
        cases refused
        exact .unknown (lookup_int_eq_some_iff.mp first) stray
  · intro bad
    cases bad with
    | absent noEnd => rw [lookup_int_eq_none_iff.mpr noEnd]
    | @unknown id first stray =>
      have unknown : ¬ graph.HasId id := stray
      rw [lookup_int_eq_some_iff.mpr first]
      dsimp only
      rw [dif_neg unknown]

/-- **An `edge` entry adds the call it describes**, if the graph has both ends and the call may be
repeated or is new. -/
theorem addEdge_eq_ok_iff {multigraph : Bool} {graph longer : CallGraph} {edge : Value} :
    addEdge multigraph graph edge = .ok longer ↔
      ∃ call, ∃ caller : graph.HasId call.caller, ∃ callee : graph.HasId call.callee,
        DescribesCall edge call ∧ (multigraph = false → call ∉ graph.calls) ∧
          longer = graph.addCall call caller callee := by
  unfold addEdge
  constructor
  · intro added
    split at added
    · cases added
    rename_i entries isList
    obtain ⟨caller, source, rest⟩ := bind_eq_ok_iff.mp added
    obtain ⟨callee, target, joined⟩ := bind_eq_ok_iff.mp rest
    dsimp only at joined
    split at joined
    · cases joined
    rename_i allowed
    cases joined
    refine ⟨⟨caller.1, callee.1⟩, caller.2, callee.2, ?_, ?_, rfl⟩
    · exact ⟨entries, Value.list?_eq_some_iff.mp isList, readEnd_eq_ok_iff.mp source,
        readEnd_eq_ok_iff.mp target⟩
    · rintro rfl
      simpa using allowed
  · rintro ⟨call, caller, callee, ⟨entries, rfl, source, target⟩, fresh, rfl⟩
    have readSource : graph.readEnd entries .source = .ok ⟨call.caller, caller⟩ :=
      readEnd_eq_ok_iff.mpr source
    have readTarget : graph.readEnd entries .target = .ok ⟨call.callee, callee⟩ :=
      readEnd_eq_ok_iff.mpr target
    have allowed : (!multigraph && graph.calls.contains call) = false := by
      cases multigraph with
      | true => rfl
      | false => simpa using fresh rfl
    refine bind_eq_ok_iff.mpr ⟨_, readSource, bind_eq_ok_iff.mpr ⟨_, readTarget, ?_⟩⟩
    rw [if_neg (Bool.eq_false_iff.mp allowed)]

/-- **What is wrong with an `edge` entry is what is reported.** -/
theorem addEdge_eq_error_iff {multigraph : Bool} {graph : CallGraph} {edge : Value}
    {fault : Fault} :
    addEdge multigraph graph edge = .error fault ↔
      EdgeFault (multigraph = true) (graph.methods.map Method.id) graph.calls edge fault := by
  unfold addEdge
  constructor
  · intro refused
    split at refused
    · rename_i noList
      cases refused
      exact .notList (Value.list?_eq_none_iff.mp noList)
    rename_i entries isList
    rw [Value.list?_eq_some_iff.mp isList]
    rcases bind_eq_error_iff.mp refused with source | ⟨caller, source, rest⟩
    · exact .source (readEnd_eq_error_iff.mp source)
    have first := readEnd_eq_ok_iff.mp source
    rcases bind_eq_error_iff.mp rest with target | ⟨callee, target, joined⟩
    · exact .target first caller.2 (readEnd_eq_error_iff.mp target)
    have described : DescribesCall (.list entries) ⟨caller.1, callee.1⟩ :=
      ⟨entries, rfl, first, readEnd_eq_ok_iff.mp target⟩
    dsimp only at joined
    split at joined
    · rename_i repeated
      cases joined
      rw [Bool.and_eq_true, Bool.not_eq_true', List.contains_iff_mem] at repeated
      exact .repeated described caller.2 callee.2 (by simp [repeated.1]) repeated.2
    · cases joined
  · intro bad
    cases bad with
    | notList noList => rw [Value.list?_eq_none_iff.mpr noList]
    | source bad => exact bind_eq_error_iff.mpr (Or.inl (readEnd_eq_error_iff.mpr bad))
    | @target entries _ id first found bad =>
      have read : graph.readEnd entries .source = .ok ⟨id, found⟩ := readEnd_eq_ok_iff.mpr first
      refine bind_eq_error_iff.mpr (Or.inr ⟨_, read, ?_⟩)
      exact bind_eq_error_iff.mpr (Or.inl (readEnd_eq_error_iff.mpr bad))
    | @repeated entries call described caller callee simple again =>
      obtain ⟨_, same, source, target⟩ := described
      cases same
      have readSource : graph.readEnd entries .source = .ok ⟨call.caller, caller⟩ :=
        readEnd_eq_ok_iff.mpr source
      have readTarget : graph.readEnd entries .target = .ok ⟨call.callee, callee⟩ :=
        readEnd_eq_ok_iff.mpr target
      have repeated : (!multigraph && graph.calls.contains call) = true := by
        rw [Bool.and_eq_true, Bool.not_eq_true', List.contains_iff_mem]
        exact ⟨Bool.eq_false_iff.mpr simple, again⟩
      refine bind_eq_error_iff.mpr (Or.inr ⟨_, readSource, ?_⟩)
      refine bind_eq_error_iff.mpr (Or.inr ⟨_, readTarget, ?_⟩)
      rw [if_pos repeated]

/-! ### All entries -/

/-- A graph is its methods and its calls. -/
theorem eq_of_methods_calls {graph other : CallGraph} (methods : graph.methods = other.methods)
    (calls : graph.calls = other.calls) : graph = other := by
  cases graph
  cases other
  cases methods
  cases calls
  rfl

/-- **The `node` entries add the methods they describe.** That no identifier is repeated is the
invariant of the graph that they end in. -/
theorem foldlM_addNode_eq_ok_iff {nodes : List Value} {graph longer : CallGraph} :
    nodes.foldlM addNode graph = .ok longer ↔
      ∃ added, List.Forall₂ DescribesMethod nodes added ∧
        longer.methods = graph.methods ++ added ∧ longer.calls = graph.calls := by
  constructor
  · intro folded
    induction nodes generalizing graph with
    | nil =>
      cases folded
      exact ⟨[], .nil, (List.append_nil _).symm, rfl⟩
    | cons node nodes ih =>
      rw [List.foldlM_cons] at folded
      obtain ⟨next, step, rest⟩ := bind_eq_ok_iff.mp folded
      obtain ⟨method, fresh, described, rfl⟩ := addNode_eq_ok_iff.mp step
      obtain ⟨added, each, methods, calls⟩ := ih rest
      refine ⟨method :: added, .cons described each, ?_, calls⟩
      rw [methods]
      exact List.append_assoc _ _ _
  · rintro ⟨added, each, methods, calls⟩
    induction each generalizing graph with
    | nil =>
      rw [List.append_nil] at methods
      rw [eq_of_methods_calls methods calls]
      rfl
    | @cons node method nodes added described _ ih =>
      have fresh : ¬ graph.HasId method.id := by
        have distinct := longer.ids_nodup
        rw [methods, List.map_append, List.map_cons] at distinct
        exact fun known => (List.nodup_append.mp distinct).2.2 _ known _ List.mem_cons_self rfl
      have step : graph.addNode node = .ok (graph.addMethod method fresh) :=
        addNode_eq_ok_iff.mpr ⟨method, fresh, described, rfl⟩
      rw [List.foldlM_cons, step]
      refine ih ?_ calls
      rw [methods]
      exact (List.append_assoc _ [method] added).symm

/-- **The `edge` entries add the calls they describe.** Without a multigraph, that no call is given
twice holds before and after every entry. -/
theorem foldlM_addEdge_eq_ok_iff {multigraph : Bool} {edges : List Value}
    {graph longer : CallGraph} (simple : multigraph = false → graph.calls.Nodup) :
    edges.foldlM (addEdge multigraph) graph = .ok longer ↔
      ∃ added, List.Forall₂ DescribesCall edges added ∧ longer.methods = graph.methods ∧
        longer.calls = graph.calls ++ added ∧ (multigraph = false → longer.calls.Nodup) := by
  constructor
  · intro folded
    induction edges generalizing graph with
    | nil =>
      cases folded
      exact ⟨[], .nil, rfl, (List.append_nil _).symm, simple⟩
    | cons edge edges ih =>
      rw [List.foldlM_cons] at folded
      obtain ⟨next, step, rest⟩ := bind_eq_ok_iff.mp folded
      obtain ⟨call, caller, callee, described, fresh, rfl⟩ := addEdge_eq_ok_iff.mp step
      have simpler : multigraph = false → (graph.calls ++ [call]).Nodup := by
        intro once
        rw [← List.concat_eq_append, List.nodup_concat]
        exact ⟨fresh once, simple once⟩
      obtain ⟨added, each, methods, calls, distinct⟩ := ih simpler rest
      refine ⟨call :: added, .cons described each, methods, ?_, distinct⟩
      rw [calls]
      exact List.append_assoc _ _ _
  · rintro ⟨added, each, methods, calls, distinct⟩
    induction each generalizing graph with
    | nil =>
      rw [List.append_nil] at calls
      rw [eq_of_methods_calls methods calls]
      rfl
    | @cons edge call edges added described _ ih =>
      have closed := longer.calls_closed call (by rw [calls]; simp)
      rw [methods] at closed
      have longerCalls : longer.calls = graph.calls ++ [call] ++ added := by
        rw [calls, List.append_assoc]
        rfl
      have simpler : multigraph = false → (graph.calls ++ [call]).Nodup := by
        intro once
        have whole := distinct once
        rw [longerCalls] at whole
        exact whole.of_append_left
      have step : addEdge multigraph graph edge =
          .ok (graph.addCall call closed.1 closed.2) := by
        refine addEdge_eq_ok_iff.mpr ⟨call, closed.1, closed.2, described, fun once => ?_, rfl⟩
        have apart := simpler once
        rw [← List.concat_eq_append, List.nodup_concat] at apart
        exact apart.1
      rw [List.foldlM_cons, step]
      exact ih simpler methods longerCalls

/-! ### The only `graph` entry -/

/-- One entry has the key if the document has it in one place. -/
theorem filter_graph_eq_singleton_iff {document : Document} {entry : Gml.Entry} :
    (document.filter fun entry => entry.1 == "graph") = [entry] ↔
      ∃ before after, document = before ++ entry :: after ∧ entry.1 = "graph" ∧
        ∀ other ∈ before ++ after, other.1 ≠ "graph" := by
  simp only [List.filter_eq_cons_iff, List.filter_eq_nil_iff, beq_iff_eq, List.mem_append]
  constructor
  · rintro ⟨before, after, whole, earlier, isGraph, later⟩
    refine ⟨before, after, whole, isGraph, fun other member => ?_⟩
    rcases member with member | member
    · exact earlier other member
    · exact later other member
  · rintro ⟨before, after, whole, isGraph, others⟩
    refine ⟨before, after, whole, fun other member => others other (Or.inl member), isGraph, ?_⟩
    exact fun other member => others other (Or.inr member)

theorem graphEntries_eq_ok_iff {document : Document} {entries : List Gml.Entry} :
    graphEntries document = .ok entries ↔ OnlyGraph document entries := by
  have only : OnlyGraph document entries ↔
      (document.filter fun entry => entry.1 == "graph") = [("graph", .list entries)] := by
    rw [filter_graph_eq_singleton_iff]
    simp only [true_and]
    rfl
  rw [only]
  unfold graphEntries
  constructor
  · intro found
    split at found
    · cases found
    · rename_i key others single
      cases found
      obtain ⟨_, _, _, isGraph, _⟩ := filter_graph_eq_singleton_iff.mp single
      rw [single, ← isGraph]
    · cases found
    · cases found
  · intro single
    rw [single]

/-- Several entries have the key if the document has it in two places. -/
theorem filter_graph_eq_cons_cons {document : Document} {first second : Gml.Entry}
    {others : List Gml.Entry}
    (several : (document.filter fun entry => entry.1 == "graph") = first :: second :: others) :
    ∃ before between after, first.1 = "graph" ∧ second.1 = "graph" ∧
      document = before ++ first :: (between ++ second :: after) := by
  obtain ⟨before, rest, whole, _, firstGraph, later⟩ := List.filter_eq_cons_iff.mp several
  obtain ⟨between, after, split, _, secondGraph, _⟩ := List.filter_eq_cons_iff.mp later
  refine ⟨before, between, after, beq_iff_eq.mp firstGraph, beq_iff_eq.mp secondGraph, ?_⟩
  rw [whole, split]

theorem graphEntries_of_several {document before between after : List Gml.Entry}
    {first second : Value}
    (several : document = before ++ ("graph", first) :: (between ++ ("graph", second) :: after)) :
    graphEntries document = .error .severalGraphs := by
  have many : 2 ≤ (document.filter fun entry => entry.1 == "graph").length := by
    simp only [several, List.filter_append, List.filter_cons, beq_self_eq_true, if_true,
      List.length_append, List.length_cons]
    omega
  unfold graphEntries
  split
  · rename_i none
    simp [none] at many
  · rename_i single
    simp [single] at many
  · rename_i single
    simp [single] at many
  · rfl

/-- **What is wrong with the `graph` entries is what is reported.** -/
theorem graphEntries_eq_error_iff {document : Document} {fault : Fault} :
    graphEntries document = .error fault ↔ ShapeFault document fault := by
  unfold graphEntries
  constructor
  · intro refused
    split at refused
    · rename_i none
      cases refused
      rw [List.filter_eq_nil_iff] at none
      exact .noGraph fun entry member isGraph => none entry member (beq_iff_eq.mpr isGraph)
    · cases refused
    · rename_i entry noList single
      cases refused
      obtain ⟨key, value⟩ := entry
      obtain ⟨before, after, whole, isGraph, others⟩ := filter_graph_eq_singleton_iff.mp single
      subst isGraph
      refine .graphNotList whole others ?_
      rintro entries rfl
      exact noList _ _ rfl
    · rename_i first second others several
      cases refused
      obtain ⟨firstKey, firstValue⟩ := first
      obtain ⟨secondKey, secondValue⟩ := second
      obtain ⟨before, between, after, isFirst, isSecond, whole⟩ :=
        filter_graph_eq_cons_cons several
      subst isFirst isSecond
      exact .severalGraphs whole
  · intro bad
    cases bad with
    | noGraph none =>
      have empty : (document.filter fun entry => entry.1 == "graph") = [] := by
        rw [List.filter_eq_nil_iff]
        exact fun entry member isGraph => none entry member (beq_iff_eq.mp isGraph)
      rw [empty]
    | severalGraphs several => exact graphEntries_of_several several
    | @graphNotList before after value only others noList =>
      have single := filter_graph_eq_singleton_iff.mpr ⟨before, after, only, rfl, others⟩
      rw [single]
      cases value with
      | list entries => exact absurd rfl (noList entries)
      | int number => rfl
      | real number => rfl
      | text content => rfl

/-! ### Documents and files -/

theorem isSet_iff {entries : List Gml.Entry} {key : String} :
    isSet entries key = true ↔ First entries key (.int 1) := by
  unfold isSet
  rw [beq_iff_eq, lookup_int_eq_some_iff]

/-- **The `node` entries describe the methods of the graph that they build.** -/
theorem foldlM_addNode_empty_eq_ok_iff {nodes : List Value} {graph : CallGraph} :
    nodes.foldlM addNode empty = .ok graph ↔
      DescribeMethods nodes graph.methods ∧ graph.calls = [] := by
  rw [foldlM_addNode_eq_ok_iff]
  constructor
  · rintro ⟨added, each, methods, calls⟩
    rw [show empty.methods = [] from rfl, List.nil_append] at methods
    exact ⟨⟨methods ▸ each, graph.ids_nodup⟩, calls⟩
  · rintro ⟨described, calls⟩
    exact ⟨graph.methods, described.each, rfl, calls⟩

/-- Described methods make a graph without calls. -/
theorem exists_graph_of_describeMethods {nodes : List Value} {methods : List Method}
    (described : DescribeMethods nodes methods) :
    ∃ graph : CallGraph, graph.methods = methods ∧ nodes.foldlM addNode empty = .ok graph := by
  let graph : CallGraph := ⟨methods, [], described.distinct, fun _ member => by cases member⟩
  exact ⟨graph, rfl, foldlM_addNode_empty_eq_ok_iff.mpr ⟨described, rfl⟩⟩

/-- **The `edge` entries describe the calls of the graph that they build.** -/
theorem foldlM_addEdge_described_iff {multigraph : Bool} {edges : List Value}
    {graph longer : CallGraph} (noCalls : graph.calls = []) :
    edges.foldlM (addEdge multigraph) graph = .ok longer ↔
      longer.methods = graph.methods ∧
        DescribeCalls (multigraph = true) (graph.methods.map Method.id) edges longer.calls := by
  have simple : multigraph = false → graph.calls.Nodup := by
    rw [noCalls]
    exact fun _ => List.nodup_nil
  rw [foldlM_addEdge_eq_ok_iff simple, noCalls]
  constructor
  · rintro ⟨added, each, methods, calls, distinct⟩
    rw [List.nil_append] at calls
    subst calls
    refine ⟨methods, each, ?_, fun once => distinct (Bool.not_eq_true _ ▸ once)⟩
    rw [← methods]
    exact longer.calls_closed
  · rintro ⟨methods, described⟩
    refine ⟨longer.calls, described.each, methods, rfl, fun once => ?_⟩
    exact described.distinct (by rw [once]; exact Bool.false_ne_true)

/-- Described calls between the methods of a graph make a graph. -/
theorem exists_graph_of_describeCalls {multigraph : Bool} {edges : List Value} {graph : CallGraph}
    {calls : List Call} (noCalls : graph.calls = [])
    (described : DescribeCalls (multigraph = true) (graph.methods.map Method.id) edges calls) :
    ∃ longer : CallGraph, longer.methods = graph.methods ∧ longer.calls = calls ∧
      edges.foldlM (addEdge multigraph) graph = .ok longer := by
  let longer : CallGraph := ⟨graph.methods, calls, graph.ids_nodup, described.closed⟩
  exact ⟨longer, rfl, rfl, (foldlM_addEdge_described_iff noCalls).mpr ⟨rfl, described⟩⟩

/-- A directed graph is read in two passes, all methods before the first call. -/
theorem ofDocument_of_directed {document : Document} {entries : List Gml.Entry}
    (only : OnlyGraph document entries) (directed : First entries "directed" (.int 1)) :
    ofDocument document = (valuesOf entries "node").foldlM addNode empty >>= fun graph =>
      (valuesOf entries "edge").foldlM (addEdge (isSet entries "multigraph")) graph := by
  unfold ofDocument
  rw [graphEntries_eq_ok_iff.mpr only]
  show (if !isSet entries "directed" then _ else _) = _
  rw [isSet_iff.mpr directed]
  rfl

theorem ofDocument_of_undirected {document : Document} {entries : List Gml.Entry}
    (only : OnlyGraph document entries) (undirected : ¬ First entries "directed" (.int 1)) :
    ofDocument document = .error .notDirected := by
  rw [← isSet_iff, Bool.not_eq_true] at undirected
  unfold ofDocument
  rw [graphEntries_eq_ok_iff.mpr only]
  show (if !isSet entries "directed" then _ else _) = _
  rw [undirected]
  rfl

/-- **A document is accepted if its only `graph` entry describes methods and calls**, and these are
the methods and calls of the graph, in order. -/
theorem ofDocument_eq_ok_iff {document : Document} {graph : CallGraph} :
    ofDocument document = .ok graph ↔
      ∃ entries, OnlyGraph document entries ∧ Describes entries graph.methods graph.calls := by
  constructor
  · intro accepted
    obtain ⟨entries, found, _⟩ := bind_eq_ok_iff.mp accepted
    have only := graphEntries_eq_ok_iff.mp found
    by_cases directed : First entries "directed" (.int 1)
    · rw [ofDocument_of_directed only directed] at accepted
      obtain ⟨methods, nodes, edges⟩ := bind_eq_ok_iff.mp accepted
      obtain ⟨described, noCalls⟩ := foldlM_addNode_empty_eq_ok_iff.mp nodes
      obtain ⟨same, calls⟩ := (foldlM_addEdge_described_iff noCalls).mp edges
      rw [propext isSet_iff] at calls
      rw [← same] at described calls
      exact ⟨entries, only, directed, described, calls⟩
    · rw [ofDocument_of_undirected only directed] at accepted
      cases accepted
  · rintro ⟨entries, only, directed, nodes, edges⟩
    obtain ⟨reached, same, read⟩ := exists_graph_of_describeMethods nodes
    obtain ⟨_, noCalls⟩ := foldlM_addNode_empty_eq_ok_iff.mp read
    rw [← same, ← propext isSet_iff] at edges
    rw [ofDocument_of_directed only directed]
    refine bind_eq_ok_iff.mpr ⟨reached, read, ?_⟩
    exact (foldlM_addEdge_described_iff noCalls).mpr ⟨same.symm, edges⟩

/-- **A document is refused with its first fault.** -/
theorem ofDocument_eq_error_iff {document : Document} {fault : Fault} :
    ofDocument document = .error fault ↔ FirstFault document fault := by
  constructor
  · intro refused
    rcases bind_eq_error_iff.mp refused with shapeless | ⟨entries, found, _⟩
    · exact .shape (graphEntries_eq_error_iff.mp shapeless)
    have only := graphEntries_eq_ok_iff.mp found
    by_cases directed : First entries "directed" (.int 1)
    · rw [ofDocument_of_directed only directed] at refused
      rcases bind_eq_error_iff.mp refused with nodes | ⟨methods, nodes, edges⟩
      · obtain ⟨before, node, after, reached, order, read, bad⟩ := foldlM_eq_error_iff.mp nodes
        obtain ⟨earlier, _⟩ := foldlM_addNode_empty_eq_ok_iff.mp read
        exact .node only directed order earlier (addNode_eq_error_iff.mp bad)
      · obtain ⟨described, noCalls⟩ := foldlM_addNode_empty_eq_ok_iff.mp nodes
        obtain ⟨before, edge, after, reached, order, read, refused⟩ := foldlM_eq_error_iff.mp edges
        obtain ⟨same, earlier⟩ := (foldlM_addEdge_described_iff noCalls).mp read
        have bad := addEdge_eq_error_iff.mp refused
        rw [propext isSet_iff, same] at bad
        rw [propext isSet_iff] at earlier
        exact .edge only directed described order earlier bad
    · rw [ofDocument_of_undirected only directed] at refused
      cases refused
      exact .notDirected only directed
  · intro bad
    cases bad with
    | shape bad => exact bind_eq_error_iff.mpr (Or.inl (graphEntries_eq_error_iff.mpr bad))
    | notDirected only undirected => exact ofDocument_of_undirected only undirected
    | @node entries before after node _ methods only directed order earlier bad =>
      obtain ⟨reached, rfl, read⟩ := exists_graph_of_describeMethods earlier
      have refused := foldlM_eq_error_iff.mpr
        ⟨before, node, after, reached, order, read, addNode_eq_error_iff.mpr bad⟩
      rw [ofDocument_of_directed only directed]
      exact bind_eq_error_iff.mpr (Or.inl refused)
    | @edge entries before after edge _ methods calls only directed nodes order earlier bad =>
      obtain ⟨reached, rfl, read⟩ := exists_graph_of_describeMethods nodes
      obtain ⟨_, noCalls⟩ := foldlM_addNode_empty_eq_ok_iff.mp read
      rw [← propext isSet_iff] at earlier bad
      obtain ⟨joined, same, rfl, readEdges⟩ := exists_graph_of_describeCalls noCalls earlier
      rw [← same] at bad
      have refused := foldlM_eq_error_iff.mpr
        ⟨before, edge, after, joined, order, readEdges, addEdge_eq_error_iff.mpr bad⟩
      rw [ofDocument_of_directed only directed]
      exact bind_eq_error_iff.mpr (Or.inr ⟨reached, read, refused⟩)

/-- **A file loads if it parses and its document is a call graph.** -/
theorem load_eq_ok_iff {source : List Char} {graph : CallGraph} :
    load source = .ok graph ↔
      ∃ document, Gml.parse source = .ok document ∧ ofDocument document = .ok graph := by
  unfold load
  cases parsed : Gml.parse source with
  | error fault => simp
  | ok document => simp [mapError_eq_ok_iff]

theorem load_eq_gml_iff {source : List Char} {fault : Gml.Fault} :
    load source = .error (.gml fault) ↔ Gml.parse source = .error fault := by
  unfold load
  cases parsed : Gml.parse source with
  | error other => simp
  | ok document => simp [mapError_eq_error_iff]

theorem load_eq_graph_iff {source : List Char} {fault : Fault} :
    load source = .error (.graph fault) ↔
      ∃ document, Gml.parse source = .ok document ∧ ofDocument document = .error fault := by
  unfold load
  cases parsed : Gml.parse source with
  | error other => simp
  | ok document => simp [mapError_eq_error_iff]

/-- **Which files load as call graphs.** A file loads if it parses and its only `graph` entry
describes methods and calls, which are then those of the graph. A file that does not parse is
refused by the parser's fault, any other file by the first fault of its document. -/
theorem load_spec (source : List Char) :
    (∀ methods calls,
      (∃ graph, load source = .ok graph ∧ graph.methods = methods ∧ graph.calls = calls) ↔
        ∃ document entries, Gml.parse source = .ok document ∧ OnlyGraph document entries ∧
          Describes entries methods calls) ∧
    (∀ fault, load source = .error (.gml fault) ↔ Gml.parse source = .error fault) ∧
    (∀ fault, load source = .error (.graph fault) ↔
      ∃ document, Gml.parse source = .ok document ∧ FirstFault document fault) := by
  refine ⟨fun methods calls => ?_, fun fault => load_eq_gml_iff, fun fault => ?_⟩
  · constructor
    · rintro ⟨graph, loaded, rfl, rfl⟩
      obtain ⟨document, parsed, accepted⟩ := load_eq_ok_iff.mp loaded
      obtain ⟨entries, only, described⟩ := ofDocument_eq_ok_iff.mp accepted
      exact ⟨document, entries, parsed, only, described⟩
    · rintro ⟨document, entries, parsed, only, described⟩
      -- The graph is built from what is described; its own invariants are part of that.
      let graph : CallGraph :=
        ⟨methods, calls, described.nodes.distinct, described.edges.closed⟩
      have accepted : ofDocument document = .ok graph :=
        ofDocument_eq_ok_iff.mpr ⟨entries, only, described⟩
      exact ⟨graph, load_eq_ok_iff.mpr ⟨document, parsed, accepted⟩, rfl, rfl⟩
  · rw [load_eq_graph_iff]
    exact exists_congr fun document => and_congr_right fun _ => ofDocument_eq_error_iff

end ApkFeatures.CallGraph
