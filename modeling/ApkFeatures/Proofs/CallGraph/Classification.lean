/-
**Sensitive methods are those whose class path has a catalog name as a component.**

Two cuts decide if a label is sensitive: at its first semicolon, and of what stands before it at every
slash. Said without cuts, a name of the catalog that has no slash stands in the path before the first
semicolon with a slash, or an end of the path, on either side. The methods of a graph are asked one
after the other, and the positions of those that are sensitive are kept in a list and in a set.

* `mem_splitOn_iff` — the pieces of a text are what stands between separators.
* `isSensitive_iff_namesClass`, `isSensitive_signature` — which labels are sensitive.
* `Agrees.add`, `Agrees.classify` — the list and the set hold the same positions.
* `positions_classify` — the list is in the order of the graph.
* `classify_spec` — all of it.
-/
import Mathlib
import ApkFeatures.CallGraph.IndexedSensitive
import ApkFeatures.Proofs.CallGraph.IndexedCallers

namespace ApkFeatures

/-! ### Components -/

/-- The piece stands in the text between two separators; the ends of the text count as such. -/
def StandsBetween (separator : Char) (piece text : List Char) : Prop :=
  ∃ before after, text = before ++ piece ++ after ∧
    (before = [] ∨ ∃ front, before = front ++ [separator]) ∧
      (after = [] ∨ ∃ back, after = separator :: back)

theorem standsBetween_after {separator : Char} {piece text : List Char} (front : List Char)
    (stands : StandsBetween separator piece text) :
    StandsBetween separator piece (front ++ separator :: text) := by
  obtain ⟨before, after, rfl, begins, ends⟩ := stands
  refine ⟨front ++ separator :: before, after, by simp, .inr ?_, ends⟩
  rcases begins with rfl | ⟨earlier, rfl⟩
  · exact ⟨front, rfl⟩
  · exact ⟨front ++ separator :: earlier, by simp⟩

/-- A piece of a cut text stands between separators and has none in it. -/
theorem standsBetween_of_mem {separator : Char} {piece text : List Char}
    (member : piece ∈ text.splitOn separator) :
    separator ∉ piece ∧ StandsBetween separator piece text := by
  induction length : text.length using Nat.strong_induction_on generalizing text with
  | _ _ ih =>
    by_cases cut : separator ∈ text
    · obtain ⟨first, rest, rfl, whole⟩ := List.eq_append_cons_of_mem cut
      rw [List.splitOn_append_cons_self, List.splitOn_eq_singleton whole, List.singleton_append,
        List.mem_cons] at member
      rcases member with rfl | later
      · exact ⟨whole, [], separator :: rest, rfl, .inl rfl, .inr ⟨rest, rfl⟩⟩
      · have shorter : rest.length < (first ++ separator :: rest).length := by
          rw [List.length_append, List.length_cons]
          omega
        obtain ⟨unseparated, stands⟩ := ih _ (length ▸ shorter) later rfl
        exact ⟨unseparated, standsBetween_after first stands⟩
    · rw [List.splitOn_eq_singleton cut, List.mem_singleton] at member
      subst member
      exact ⟨cut, [], [], by simp, .inl rfl, .inl rfl⟩

/-- **The pieces of a text are what stands between separators and has none in it.** -/
theorem mem_splitOn_iff {separator : Char} {piece text : List Char} :
    piece ∈ text.splitOn separator ↔
      separator ∉ piece ∧ StandsBetween separator piece text := by
  refine ⟨standsBetween_of_mem, ?_⟩
  rintro ⟨whole, before, after, rfl, begins, ends⟩
  have last : piece ∈ (piece ++ after).splitOn separator := by
    rcases ends with rfl | ⟨back, rfl⟩
    · rw [List.append_nil, List.splitOn_eq_singleton whole]
      exact List.mem_singleton_self piece
    · rw [List.splitOn_append_cons_self, List.splitOn_eq_singleton whole]
      exact List.mem_append_left _ (List.mem_singleton_self piece)
  rcases begins with rfl | ⟨front, rfl⟩
  · exact last
  · rw [List.append_assoc, List.append_assoc, List.singleton_append, List.splitOn_append_cons_self]
    exact List.mem_append_right _ last

/-! ### Labels -/

/-- The path is the part of the label before its first semicolon, all of it if there is none. -/
def IsClassPath (path label : List Char) : Prop :=
  ';' ∉ path ∧ (label = path ∨ ∃ signature, label = path ++ ';' :: signature)

/-- **A name of the catalog is a component of the class path of the label.** -/
def NamesClass (catalog : List String) (label : String) : Prop :=
  ∃ name ∈ catalog, '/' ∉ name.toList ∧
    ∃ path, IsClassPath path label.toList ∧ StandsBetween '/' name.toList path

/-- What follows a semicolon does not belong to the class path. -/
theorem classPath_append (path signature : List Char) :
    classPath (path ++ ';' :: signature) = classPath path := by
  induction path with
  | nil => rfl
  | cons c path ih =>
    unfold classPath at ih ⊢
    rw [List.cons_append, List.takeWhile_cons, List.takeWhile_cons, ih]

theorem classPath_of_not_mem {path : List Char} (whole : ';' ∉ path) : classPath path = path :=
  List.takeWhile_eq_self_iff.mpr fun _ member =>
    decide_eq_true fun same => whole (same ▸ member)

theorem isClassPath_iff {path label : List Char} :
    IsClassPath path label ↔ classPath label = path := by
  constructor
  · rintro ⟨whole, rfl | ⟨signature, rfl⟩⟩
    · exact classPath_of_not_mem whole
    · rw [classPath_append, classPath_of_not_mem whole]
  · rintro rfl
    by_cases signed : ';' ∈ label
    · obtain ⟨path, signature, rfl, whole⟩ := List.eq_append_cons_of_mem signed
      rw [classPath_append, classPath_of_not_mem whole]
      exact ⟨whole, .inr ⟨signature, rfl⟩⟩
    · rw [classPath_of_not_mem signed]
      exact ⟨signed, .inl rfl⟩

/-- **A label is sensitive if a name of the catalog is a component of its class path.** -/
theorem isSensitive_iff_namesClass {catalog : List String} {label : String} :
    isSensitive catalog label = true ↔ NamesClass catalog label := by
  simp only [isSensitive, NamesClass, List.any_eq_true, beq_iff_eq, isClassPath_iff,
    exists_eq_left', ← mem_splitOn_iff]
  constructor
  · rintro ⟨_, component, name, member, rfl⟩
    exact ⟨name, member, component⟩
  · rintro ⟨name, member, component⟩
    exact ⟨name.toList, component, name, member, rfl⟩

/-- **What follows a semicolon does not matter.** -/
theorem isSensitive_signature (catalog : List String) (path signature : String) :
    isSensitive catalog (path ++ ";" ++ signature) = isSensitive catalog path := by
  have written : (path ++ ";" ++ signature).toList = path.toList ++ ';' :: signature.toList := by
    rw [String.toList_append, String.toList_append, List.append_assoc]
    rfl
  rw [isSensitive, isSensitive, written, classPath_append]

/-! ### The list and the set -/

namespace SensitivePositions

variable {found : SensitivePositions}

/-- The list and the set hold the same positions. -/
def Agrees (found : SensitivePositions) : Prop :=
  ∀ position, found.contains position = true ↔ position ∈ found.positions

theorem agrees_empty : empty.Agrees := fun position => by simp [empty, contains]

theorem Agrees.add (agrees : found.Agrees) (position : Nat) : (found.add position).Agrees := by
  intro other
  unfold SensitivePositions.add
  split
  · exact agrees other
  · show (found.members.insert position).contains other = true ↔ other ∈ found.positions.push position
    rw [Std.HashSet.contains_insert, Bool.or_eq_true, beq_iff_eq, Array.mem_push, ← agrees other,
      or_comm, @eq_comm _ other position]
    rfl

/-- A position that is not there is added at the end. -/
theorem Agrees.positions_add (agrees : found.Agrees) {position : Nat}
    (fresh : position ∉ found.positions) :
    (found.add position).positions.toList = found.positions.toList ++ [position] := by
  have absent : ¬ found.members.contains position = true := mt (agrees position).mp fresh
  rw [SensitivePositions.add, if_neg absent, Array.toList_push]

end SensitivePositions

namespace IndexedGraph

open SensitivePositions

variable {graph : IndexedGraph} {catalog : List String}

theorem agrees_consider {found : SensitivePositions} (agrees : found.Agrees) (position : Nat) :
    (graph.consider catalog found position).Agrees := by
  unfold consider
  split
  · exact agrees.add position
  · exact agrees

theorem agrees_foldl_consider (positions : List Nat) :
    ∀ {found : SensitivePositions}, found.Agrees →
      (positions.foldl (graph.consider catalog) found).Agrees := by
  induction positions with
  | nil => exact fun agrees => agrees
  | cons position positions ih => exact fun agrees => ih (agrees_consider agrees position)

/-- **A run through the first methods lists those of them that are sensitive**, in their order. -/
theorem positions_foldl_consider (graph : IndexedGraph) (catalog : List String) (size : Nat) :
    ((List.range size).foldl (graph.consider catalog) .empty).positions.toList =
      (List.range size).filter fun position => (graph.label? position).any (isSensitive catalog) := by
  induction size with
  | zero => rfl
  | succ size ih =>
    have agrees : ((List.range size).foldl (graph.consider catalog) .empty).Agrees :=
      agrees_foldl_consider _ agrees_empty
    have sensitive : (graph.label? size).any (isSensitive catalog) =
        (graph.method? size).any fun method => isSensitive catalog method.label := Option.any_map
    rw [List.range_succ, List.foldl_concat, List.filter_append, ← ih, List.filter_singleton,
      sensitive, consider]
    cases (graph.method? size).any fun method => isSensitive catalog method.label with
    | false => exact (List.append_nil _).symm
    | true =>
      -- all positions so far are smaller, so this one is new
      have fresh : size ∉
          ((List.range size).foldl (graph.consider catalog) .empty).positions := by
        rw [← Array.mem_toList_iff, ih]
        exact fun member => List.not_mem_range_self (List.mem_of_mem_filter member)
      exact agrees.positions_add fresh

/-- **The list has the positions of the sensitive methods.** -/
theorem positions_classify (graph : IndexedGraph) (catalog : List String) :
    (graph.classify catalog).positions.toList = graph.sensitive catalog :=
  positions_foldl_consider graph catalog graph.size

theorem mem_positions_classify_iff {position : Nat} :
    position ∈ (graph.classify catalog).positions ↔
      ∃ method, graph.method? position = some method ∧ NamesClass catalog method.label := by
  rw [← Array.mem_toList_iff, positions_classify, sensitive, List.mem_filter, List.mem_range]
  simp only [Option.any_eq_true, label?_eq_some_iff, isSensitive_iff_namesClass]
  constructor
  · rintro ⟨-, _, ⟨method, here, rfl⟩, named⟩
    exact ⟨method, here, named⟩
  · rintro ⟨method, here, named⟩
    refine ⟨?_, method.label, ⟨method, here, rfl⟩, named⟩
    obtain ⟨node, found, -⟩ := Option.map_eq_some_iff.mp here
    exact (Array.getElem?_eq_some_iff.mp found).1

/-- **Classification.** A label is sensitive if a name of the catalog without a slash stands, between
slashes or ends, in its part before the first semicolon; nothing behind that counts. The sensitive
methods of a graph with tables are listed by their positions, each once and in the order of the
graph, and a position is in the set just if it is in the list. They are the sensitive methods of the
graph without tables, which are a part of its methods in their order, each once. -/
theorem classify_spec (catalog : List String) :
    (∀ label, isSensitive catalog label = true ↔ NamesClass catalog label) ∧
    (∀ path signature : String,
      isSensitive catalog (path ++ ";" ++ signature) = isSensitive catalog path) ∧
    (∀ graph : IndexedGraph,
      let found := graph.classify catalog
      found.positions.toList.Pairwise (· < ·) ∧
      (∀ position, position ∈ found.positions ↔
        ∃ method, graph.method? position = some method ∧ NamesClass catalog method.label) ∧
      ∀ position, found.contains position = true ↔ position ∈ found.positions) ∧
    ∀ graph : CallGraph,
      let sensitive := graph.sensitive catalog
      sensitive.Sublist graph.methods ∧ sensitive.Nodup ∧
      (∀ method, method ∈ sensitive ↔
        method ∈ graph.methods ∧ NamesClass catalog method.label) ∧
      ∀ tables : IndexedGraph, tables.Represents graph →
        (tables.classify catalog).positions.toList.filterMap tables.method? = sensitive := by
  refine ⟨fun label => isSensitive_iff_namesClass, isSensitive_signature catalog,
    fun graph => ⟨?_, fun position => mem_positions_classify_iff,
      agrees_foldl_consider _ agrees_empty⟩,
    fun graph => ⟨List.filter_sublist, ?_, fun method => ?_, fun tables represents => ?_⟩⟩
  · rw [positions_classify]
    exact List.pairwise_lt_range.filter _
  · exact (List.Nodup.of_map _ graph.ids_nodup).filter _
  · rw [CallGraph.mem_sensitive_iff, isSensitive_iff_namesClass]
  · rw [positions_classify, represents.sensitive_eq]

/-- A component is found between slashes, not inside a longer one nor behind a semicolon; a name with
a slash is found nowhere. -/
theorem classify_spec_sample :
    let graph : IndexedGraph :=
      ⟨#[⟨⟨0, "La/Cipher/b;->c"⟩, []⟩, ⟨⟨1, "a/MyCipher;->d/Cipher;"⟩, []⟩], #[], ∅, ∅⟩
    let found := graph.classify ["Cipher", "a/MyCipher"]
    found.contains 0 = true ∧ ¬ found.contains 1 = true := by
  intro graph found
  obtain ⟨label, -, tables, -⟩ := classify_spec ["Cipher", "a/MyCipher"]
  obtain ⟨-, listed, member⟩ := tables graph
  have first : NamesClass ["Cipher", "a/MyCipher"] "La/Cipher/b;->c" :=
    (label _).mp (by decide +kernel)
  have second : ¬ NamesClass ["Cipher", "a/MyCipher"] "a/MyCipher;->d/Cipher;" := by
    rw [← label]
    decide +kernel
  refine ⟨(member 0).mpr ((listed 0).mpr ⟨_, rfl, first⟩), fun contained => ?_⟩
  obtain ⟨method, here, named⟩ := (listed 1).mp ((member 1).mp contained)
  cases here
  exact second named

end IndexedGraph

end ApkFeatures
