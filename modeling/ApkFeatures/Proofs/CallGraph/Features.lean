/-
**What the features of a call graph say about its file.**

A name of the vocabulary is present if the file has an `edge` entry between two `node` entries with
sensitive labels and the name occurs in the label of the caller. Nothing of the way there is left in
that statement: not the graph, nor its identifiers, nor the callers that were found.

* `isSensitive_iff` — which labels are sensitive.
* `hasEdge_iff` — the calls of a graph are the `edge` entries of its file.
* `get?_sensitiveFeatures` — the value of every name.
-/
import ApkFeatures.CallGraph.Features
import ApkFeatures.Proofs.Feature
import ApkFeatures.Proofs.CallGraph.Callers
import ApkFeatures.Proofs.CallGraph.Schema

namespace ApkFeatures

/-- A class of the catalog is a component of the path before the first semicolon of the label. -/
def SensitiveLabel (catalog : List String) (label : String) : Prop :=
  ∃ name ∈ catalog, name.toList ∈ (label.toList.takeWhile (· ≠ ';')).splitOn '/'

theorem isSensitive_iff {catalog : List String} {label : String} :
    isSensitive catalog label = true ↔ SensitiveLabel catalog label := by
  unfold isSensitive SensitiveLabel classPath
  simp only [List.any_eq_true, beq_iff_eq]
  constructor
  · rintro ⟨_, component, name, member, rfl⟩
    exact ⟨name, member, component⟩
  · rintro ⟨name, member, component⟩
    exact ⟨name.toList, component, name, member, rfl⟩

namespace CallGraph

open Gml

/-! ### Edges -/

/-- **An `edge` entry leads from a `node` entry with one label to a `node` entry with another.** -/
def HasEdge (entries : List Gml.Entry) (caller callee : String) : Prop :=
  ∃ edge call source target, ("edge", edge) ∈ entries ∧ DescribesCall edge call ∧
    ("node", source) ∈ entries ∧ DescribesMethod source ⟨call.caller, caller⟩ ∧
    ("node", target) ∈ entries ∧ DescribesMethod target ⟨call.callee, callee⟩

theorem Describes.hasEdge_iff {entries : List Gml.Entry} {methods : List Method} {calls : List Call}
    (described : Describes entries methods calls) (caller callee : String) :
    HasEdge entries caller callee ↔ ∃ source ∈ methods, ∃ target ∈ methods,
      ⟨source.id, target.id⟩ ∈ calls ∧ source.label = caller ∧ target.label = callee := by
  simp only [described.mem_methods_iff, described.mem_calls_iff]
  constructor
  · rintro ⟨edge, ⟨callerId, calleeId⟩, source, target, edgeEntry, isCall, sourceEntry, isSource,
      targetEntry, isTarget⟩
    exact ⟨⟨callerId, caller⟩, ⟨source, sourceEntry, isSource⟩, ⟨calleeId, callee⟩,
      ⟨target, targetEntry, isTarget⟩, ⟨edge, edgeEntry, isCall⟩, rfl, rfl⟩
  · rintro ⟨⟨callerId, _⟩, ⟨source, sourceEntry, isSource⟩, ⟨calleeId, _⟩,
      ⟨target, targetEntry, isTarget⟩, ⟨edge, edgeEntry, isCall⟩, rfl, rfl⟩
    exact ⟨edge, ⟨callerId, calleeId⟩, source, target, edgeEntry, isCall, sourceEntry, isSource,
      targetEntry, isTarget⟩

/-! ### Features -/

/-- **An `edge` entry between sensitive labels has the name in the label of its caller.** -/
def Mentions (entries : List Gml.Entry) (name : String) : Prop :=
  ∃ caller callee, HasEdge entries caller callee ∧ SensitiveLabel sensitiveClasses caller ∧
    SensitiveLabel sensitiveClasses callee ∧ name.toList <:+: caller.toList

theorem mention_iff {entries : List Gml.Entry} {graph : CallGraph} {name : String}
    (described : Describes entries graph.methods graph.calls) :
    graph.sensitiveCallers.mention name = true ↔ Mentions entries name := by
  unfold Callers.mention sensitiveCallers Mentions
  simp only [List.any_eq_true, mem_resolve_labels_iff, Text.occursIn_iff, described.hasEdge_iff,
    isSensitive_iff]
  constructor
  · rintro ⟨_, ⟨source, member, target, also, call, calling, called, rfl⟩, occurs⟩
    exact ⟨source.label, target.label, ⟨source, member, target, also, call, rfl, rfl⟩, calling,
      called, occurs⟩
  · rintro ⟨_, _, ⟨source, member, target, also, call, rfl, rfl⟩, calling, called, occurs⟩
    exact ⟨source.label, ⟨source, member, target, also, call, calling, called, rfl⟩, occurs⟩

/-- **The features of a file.** A file that loads has one `graph` list. A name of the vocabulary is
one if an `edge` entry of the list, between labels that are both sensitive, has the name in the
label of its caller, and zero otherwise. -/
theorem get?_sensitiveFeatures {source : List Char} {graph : CallGraph} {key : String}
    (loaded : load source = .ok graph) (known : key ∈ Vocabulary.sensitiveApis.keys) :
    (∃ document entries, parse source = .ok document ∧ OnlyGraph document entries) ∧
      ∀ document entries, parse source = .ok document → OnlyGraph document entries →
        (graph.sensitiveCallers.features.get? key = some 1 ↔ Mentions entries key) ∧
          (graph.sensitiveCallers.features.get? key = some 0 ↔ ¬ Mentions entries key) := by
  obtain ⟨document, parsed, accepted⟩ := load_eq_ok_iff.mp loaded
  obtain ⟨entries, only, described⟩ := ofDocument_eq_ok_iff.mp accepted
  refine ⟨⟨document, entries, parsed, only⟩, fun other others again unique => ?_⟩
  obtain rfl : document = other := Except.ok.inj (parsed.symm.trans again)
  obtain rfl : entries = others := by
    have found := graphEntries_eq_ok_iff.mpr only
    rw [graphEntries_eq_ok_iff.mpr unique] at found
    exact (Except.ok.inj found).symm
  have listed : key ∈ Vocabulary.sensitiveApis.keys.filter graph.sensitiveCallers.mention ↔
      Mentions entries key := by
    rw [List.mem_filter, mention_iff described]
    exact and_iff_right known
  unfold Callers.features
  rw [FeatureVector.get?_ofNames known]
  by_cases mentioned : Mentions entries key
  · rw [if_pos (listed.mpr mentioned)]
    simp [mentioned]
  · rw [if_neg fun member => mentioned (listed.mp member)]
    simp [mentioned]

/-- A method that calls itself, with the call before the method. -/
theorem get?_sensitiveFeatures_sample :
    let source :=
      "graph[directed 1 edge[source 0 target 0]node[id 0 label\"Cipher;getInputStream\"]]".toList
    ∃ graph, load source = .ok graph ∧
      graph.sensitiveCallers.features.get? "getInputStream" = some 1 ∧
        graph.sensitiveCallers.features.get? "getDeviceId" = some 0 := by
  intro source
  have mentioned : (load source).toOption.map (fun graph =>
      (graph.sensitiveCallers.mention "getInputStream",
        graph.sensitiveCallers.mention "getDeviceId")) = some (true, false) := by
    decide +kernel
  cases loaded : load source with
  | error fault =>
    rw [loaded] at mentioned
    cases mentioned
  | ok graph =>
    rw [loaded] at mentioned
    obtain ⟨one, zero⟩ := Prod.mk.inj (Option.some.inj mentioned)
    obtain ⟨document, parsed, accepted⟩ := load_eq_ok_iff.mp loaded
    obtain ⟨entries, only, described⟩ := ofDocument_eq_ok_iff.mp accepted
    have present : Mentions entries "getInputStream" := (mention_iff described).mp one
    have absent : ¬ Mentions entries "getDeviceId" := by
      rw [← mention_iff described]
      exact Bool.eq_false_iff.mp zero
    have first : "getInputStream" ∈ Vocabulary.sensitiveApis.keys := List.mem_cons_self
    have later : "getDeviceId" ∈ Vocabulary.sensitiveApis.keys := by decide +kernel
    exact ⟨graph, rfl,
      ((get?_sensitiveFeatures loaded first).2 document entries parsed only).1.mpr present,
      ((get?_sensitiveFeatures loaded later).2 document entries parsed only).2.mpr absent⟩

end CallGraph

end ApkFeatures
