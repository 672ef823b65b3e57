/-
**The callers that are told are those that count.**

Callers are found in two ways. For the features, one goes from sensitive method to sensitive method
and records each label once. For what is told, one takes the labels of the sensitive methods and asks
who calls the methods of each, sensitive or not. Both find the same: whether a method is sensitive is
told by its label, so all methods with the label of a sensitive one are sensitive.

* `mem_callersOf_iff` — the callers of one label.
* `mem_resolve_labels_iff_exists_callersOf` — the callers that count are those of the labels.
* `texts_callerMessages` — what is told, line by line.
* `mem_sensitiveCallers_iff_exists_shown` — what is told of and what counts.
* `callers_agree` — all of it, for the lists and for the tables.
-/
import ApkFeatures.Proofs.CallGraph.Features
import ApkFeatures.Proofs.CallGraph.IndexedCallers
import Mathlib

namespace ApkFeatures.CallGraph

variable {graph : CallGraph} {catalog : List String}

/-! ### The callers of a label -/

theorem mem_labelled_iff {label : String} {method : Method} :
    method ∈ graph.labelled label ↔ method ∈ graph.methods ∧ method.label = label := by
  rw [labelled, List.mem_filter, beq_iff_eq]

/-- **The callers of a label are the labels of the sensitive methods that call a method with it.** -/
theorem mem_callersOf_iff {label caller : String} :
    caller ∈ graph.callersOf (graph.sensitive catalog) label ↔
      ∃ source ∈ graph.sensitive catalog, ∃ target ∈ graph.methods,
        ⟨source.id, target.id⟩ ∈ graph.calls ∧ target.label = label ∧ source.label = caller := by
  rw [callersOf, mem_ascending_iff]
  simp only [List.mem_map, List.mem_filter, List.mem_flatMap, mem_labelled_iff, mem_callers_iff,
    List.contains_iff_mem]
  constructor
  · rintro ⟨source, ⟨⟨target, ⟨member, same⟩, -, call⟩, counts⟩, rfl⟩
    exact ⟨source, counts, target, member, call, same, rfl⟩
  · rintro ⟨source, counts, target, member, call, same, rfl⟩
    exact ⟨source, ⟨⟨target, ⟨member, same⟩, (mem_sensitive_iff.mp counts).1, call⟩, counts⟩, rfl⟩

/-- **The callers that count are those of the labels of the sensitive methods.** A method that is
reached by its label is sensitive as well, even if another gave the label. -/
theorem mem_resolve_labels_iff_exists_callersOf {caller : String} :
    caller ∈ (graph.resolve (graph.sensitive catalog)).labels ↔
      ∃ method ∈ graph.sensitive catalog,
        caller ∈ graph.callersOf (graph.sensitive catalog) method.label := by
  simp only [mem_callersOf_iff, mem_resolve_labels_iff]
  constructor
  · rintro ⟨source, member, target, also, call, counts, called, named⟩
    exact ⟨target, mem_sensitive_iff.mpr ⟨also, called⟩, source,
      mem_sensitive_iff.mpr ⟨member, counts⟩, target, also, call, rfl, named⟩
  · rintro ⟨method, counted, source, counts, target, also, call, same, named⟩
    rw [mem_sensitive_iff] at counted counts
    exact ⟨source, counts.1, target, also, call, counts.2, same ▸ counted.2, named⟩

/-! ### What is told -/

/-- The labels of sensitive methods that have callers, with these callers. -/
def shown (graph : CallGraph) : List (String × List String) :=
  ((ascending ((graph.sensitive sensitiveClasses).map Method.label)).map fun label =>
    (label, graph.callersOf (graph.sensitive sensitiveClasses) label)).filter fun entry =>
      entry.2 ≠ []

/-- The line that tells of a label and its callers. -/
def shownLine (entry : String × List String) : String :=
  entry.1 ++ " is called by " ++ ", ".intercalate entry.2

theorem mem_shown_iff {entry : String × List String} :
    entry ∈ graph.shown ↔
      (∃ method ∈ graph.sensitive sensitiveClasses, method.label = entry.1) ∧
        entry.2 = graph.callersOf (graph.sensitive sensitiveClasses) entry.1 ∧ entry.2 ≠ [] := by
  obtain ⟨label, callers⟩ := entry
  rw [shown, List.mem_filter, List.mem_map, decide_eq_true_iff, ← and_assoc]
  refine and_congr_left fun _ => ⟨?_, ?_⟩
  · rintro ⟨_, member, same⟩
    obtain ⟨rfl, rfl⟩ := Prod.mk.inj same
    exact ⟨List.mem_map.mp (mem_ascending_iff.mp member), rfl⟩
  · rintro ⟨named, same⟩
    exact ⟨label, mem_ascending_iff.mpr (List.mem_map.mpr named), congrArg _ same.symm⟩

/-- What is told label by label, of those that have callers only, is told of what is shown. -/
theorem map_shownLine {line : String → Option String}
    (without : ∀ label, graph.callersOf (graph.sensitive sensitiveClasses) label = [] →
      line label = none)
    (called : ∀ label, graph.callersOf (graph.sensitive sensitiveClasses) label ≠ [] →
      line label =
        some (shownLine (label, graph.callersOf (graph.sensitive sensitiveClasses) label))) :
    graph.shown.map shownLine =
      (ascending ((graph.sensitive sensitiveClasses).map Method.label)).filterMap line := by
  rw [shown]
  induction ascending ((graph.sensitive sensitiveClasses).map Method.label) with
  | nil => rfl
  | cons label labels ih =>
    rw [List.map_cons, List.filter_cons, List.filterMap_cons, ← ih]
    by_cases empty : graph.callersOf (graph.sensitive sensitiveClasses) label = []
    · rw [without label empty, if_neg (by simpa using empty)]
    · rw [called label empty, if_pos (by simpa using empty), List.map_cons]

/-- **The lines between the first and the last tell who calls the methods of each label.** -/
theorem texts_callerMessages (graph : CallGraph) : ∃ first last,
    graph.callerMessages.map Message.text = first :: graph.shown.map shownLine ++ [last] := by
  rw [callerMessages, List.map_map]
  rw [← @map_shownLine graph _ ?without ?called]
  · exact ⟨_, _, List.map_id _⟩
  case without =>
    intro label empty
    rw [empty]
  case called =>
    intro label called
    obtain ⟨caller, callers, some⟩ := List.exists_cons_of_ne_nil called
    rw [some]
    rfl

/-- **The callers that are told of are the callers that count.** -/
theorem mem_sensitiveCallers_iff_exists_shown {caller : String} :
    caller ∈ graph.sensitiveCallers.labels ↔ ∃ entry ∈ graph.shown, caller ∈ entry.2 := by
  rw [sensitiveCallers, mem_resolve_labels_iff_exists_callersOf]
  constructor
  · rintro ⟨method, counted, calls⟩
    exact ⟨(method.label, _), mem_shown_iff.mpr ⟨⟨method, counted, rfl⟩, rfl,
      List.ne_nil_of_mem calls⟩, calls⟩
  · rintro ⟨entry, told, calls⟩
    obtain ⟨⟨method, counted, named⟩, callers, -⟩ := mem_shown_iff.mp told
    rw [callers, ← named] at calls
    exact ⟨method, counted, calls⟩

/-- **A feature is present if its name occurs in a caller that is told of.** -/
theorem get?_features_iff_exists_shown {key : String}
    (known : key ∈ Vocabulary.sensitiveApis.keys) :
    graph.sensitiveCallers.features.get? key = some 1 ↔
      ∃ entry ∈ graph.shown, ∃ caller ∈ entry.2, key.toList <:+: caller.toList := by
  have mentioned : graph.sensitiveCallers.mention key = true ↔
      ∃ entry ∈ graph.shown, ∃ caller ∈ entry.2, key.toList <:+: caller.toList := by
    rw [Callers.mention, List.any_eq_true]
    simp only [mem_sensitiveCallers_iff_exists_shown, Text.occursIn_iff]
    constructor
    · rintro ⟨caller, ⟨entry, told, calls⟩, occurs⟩
      exact ⟨entry, told, caller, calls, occurs⟩
    · rintro ⟨entry, told, caller, calls, occurs⟩
      exact ⟨caller, ⟨entry, told, calls⟩, occurs⟩
  have listed : key ∈ Vocabulary.sensitiveApis.keys.filter graph.sensitiveCallers.mention ↔
      graph.sensitiveCallers.mention key = true := by
    rw [List.mem_filter]
    exact and_iff_right known
  rw [← mentioned, ← listed, Callers.features, FeatureVector.get?_ofNames known]
  split
  · exact iff_of_true rfl ‹_›
  · exact iff_of_false (by decide) ‹_›

/-! ### Both ways -/

/-- **The two ways to find callers agree.** The callers of a label, in ascending order and each once,
are the labels of the sensitive methods that call a method with the label, sensitive or not. The
callers that count are those of the labels of all sensitive methods together. So the lines that are
told show the callers that count and no others, and the features can be read off them. A graph with
tables gives the same both ways, the one by its methods and the other by its table of labels. -/
theorem callers_agree (graph : CallGraph) (catalog : List String) :
    (∀ label, (graph.callersOf (graph.sensitive catalog) label).Pairwise (· < ·) ∧
      ∀ caller, caller ∈ graph.callersOf (graph.sensitive catalog) label ↔
        ∃ source ∈ graph.sensitive catalog, ∃ target ∈ graph.methods,
          ⟨source.id, target.id⟩ ∈ graph.calls ∧ target.label = label ∧ source.label = caller) ∧
      (∀ caller, caller ∈ (graph.resolve (graph.sensitive catalog)).labels ↔
        ∃ method ∈ graph.sensitive catalog,
          caller ∈ graph.callersOf (graph.sensitive catalog) method.label) ∧
      (∃ first last,
        graph.callerMessages.map Message.text = first :: graph.shown.map shownLine ++ [last]) ∧
      (∀ caller, caller ∈ graph.sensitiveCallers.labels ↔
        ∃ entry ∈ graph.shown, caller ∈ entry.2) ∧
      (∀ key ∈ Vocabulary.sensitiveApis.keys,
        graph.sensitiveCallers.features.get? key = some 1 ↔
          ∃ entry ∈ graph.shown, ∃ caller ∈ entry.2, key.toList <:+: caller.toList) ∧
      ∀ tables : IndexedGraph, tables.Represents graph →
        tables.resolve (tables.sensitive catalog) = graph.resolve (graph.sensitive catalog) ∧
          ∀ label, tables.callersOf (tables.sensitive catalog) label =
            graph.callersOf (graph.sensitive catalog) label := by
  refine ⟨fun label => ⟨ascending_pairwise _, fun caller => mem_callersOf_iff⟩,
    fun caller => mem_resolve_labels_iff_exists_callersOf, texts_callerMessages graph,
    fun caller => mem_sensitiveCallers_iff_exists_shown,
    fun key known => get?_features_iff_exists_shown known, fun tables represents => ?_⟩
  exact ⟨represents.resolve_eq catalog, represents.callersOf_eq catalog⟩

/-- Two methods with one label that are called from the same method, a call from a method that is
not sensitive and one to such a method. -/
def crossing : List IndexedGraph.Addition :=
  [.node [("id", .int 0), ("label", .text "Cipher;a")],
    .node [("id", .int 1), ("label", .text "SmsManager;b")],
    .node [("id", .int 2), ("label", .text "Other;c")],
    .node [("id", .int 3), ("label", .text "Cipher;a")],
    .call 1 0, .call 3 1, .call 2 1, .call 1 3, .call 0 2]

theorem callers_agree_crossing :
    let tables := (IndexedGraph.perform crossing .empty).2
    let sensitive := tables.sensitive ["Cipher", "SmsManager"]
    tables.Represents (IndexedGraph.addAll crossing .empty) ∧
      tables.resolve sensitive = ⟨["Cipher;a", "SmsManager;b"], 3⟩ ∧
      tables.callersOf sensitive "Cipher;a" = ["SmsManager;b"] ∧
      tables.callersOf sensitive "Other;c" = ["Cipher;a"] := by
  intro tables sensitive
  have represents := (IndexedGraph.perform_represents crossing IndexedGraph.empty_represents).1
  have plain : IndexedGraph.addAll crossing .empty =
      ⟨[⟨0, "Cipher;a"⟩, ⟨1, "SmsManager;b"⟩, ⟨2, "Other;c"⟩, ⟨3, "Cipher;a"⟩],
        [⟨1, 0⟩, ⟨3, 1⟩, ⟨2, 1⟩, ⟨1, 3⟩, ⟨0, 2⟩], by decide, by decide⟩ := rfl
  obtain ⟨-, -, -, -, -, alike⟩ :=
    callers_agree (IndexedGraph.addAll crossing .empty) ["Cipher", "SmsManager"]
  obtain ⟨resolved, callers⟩ := alike tables represents
  refine ⟨represents, resolved.trans ?_, (callers _).trans ?_, (callers _).trans ?_⟩
  · rw [plain]
    cbv
  · rw [plain]
    cbv
  · rw [plain]
    cbv

end ApkFeatures.CallGraph
