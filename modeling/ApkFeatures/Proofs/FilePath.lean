/-
**Names in folders.**

A path made by joining a name to a folder is written as the segments that lead into the folder, and
then the name. So the last name and the parent of such a path are known without looking at its
bytes.

* `segments_join`, `segments_eq_inside` — the segments of such a path, and those of its folder.
* `exists_join` — which paths are made so.
* `components_join`, `fileName?_join` — its components, and its last name.
* `parent?_join`, `parentOf_prefix`, `segments_parentOf` — its parent.
* `order_inj` — paths with the same rank are the same.
-/
import ApkFeatures.FilePath

namespace ApkFeatures.FilePath

variable {folder : FilePath} {name : Bytes}

/-- A name that something in a folder can have. -/
structure IsName (name : Bytes) : Prop where
  /-- It has no slash in it. -/
  unslashed : slash ∉ name
  /-- It does not stand for nothing. -/
  solid : isFiller name = false
  /-- It does not lead upwards. -/
  inner : name ≠ [dot, dot]

theorem IsName.ne_nil (named : IsName name) : name ≠ [] := by
  rintro rfl
  exact absurd named.solid (by decide)

theorem isAbsolute_of_unslashed (unslashed : slash ∉ name) : isAbsolute ⟨name⟩ = false := by
  cases name with
  | nil => rfl
  | cons first others =>
    refine decide_eq_false fun same => unslashed ?_
    rw [Option.some.inj same]
    exact List.mem_cons_self

/-! ### Segments -/

/-- The segments that lead into a folder: those of its path, besides what follows a last slash. -/
def inside (folder : FilePath) : List Bytes :=
  if folder.segments.getLast? = some [] then folder.segments.dropLast else folder.segments

/-- The path of a folder leads into it, possibly with a slash at its end. -/
theorem segments_eq_inside (folder : FilePath) :
    folder.segments = folder.inside ∨ folder.segments = folder.inside ++ [[]] := by
  by_cases slashed : folder.segments.getLast? = some []
  · obtain ⟨front, whole⟩ := List.getLast?_eq_some_iff.mp slashed
    exact .inr (by rw [inside, if_pos slashed, whole, List.dropLast_concat])
  · exact .inl (by rw [inside, if_neg slashed])

theorem segments_of_unslashed (unslashed : slash ∉ name) : segments ⟨name⟩ = [name] :=
  List.splitOn_eq_singleton unslashed

theorem unslashed_of_mem_segments {path : FilePath} {segment : Bytes}
    (member : segment ∈ path.segments) : slash ∉ segment := by
  obtain ⟨bytes⟩ := path
  change segment ∈ bytes.splitOn slash at member
  induction bytes generalizing segment with
  | nil =>
    rw [List.splitOn_nil, List.mem_singleton] at member
    rw [member]
    exact List.not_mem_nil
  | cons first others ih =>
    rw [List.splitOn_cons_eq_if_modifyHead] at member
    obtain ⟨head, tail, split⟩ := List.exists_cons_of_ne_nil (List.splitOn_ne_nil slash others)
    rw [split] at ih member
    by_cases isSlash : (first == slash) = true
    · rw [if_pos isSlash] at member
      rcases List.mem_cons.mp member with empty | later
      · rw [empty]
        exact List.not_mem_nil
      · exact ih later
    · rw [if_neg isSlash, List.modifyHead_cons] at member
      rcases List.mem_cons.mp member with whole | later
      · rw [whole, List.mem_cons, not_or]
        exact ⟨fun same => isSlash (by rw [same, beq_self_eq_true]), ih List.mem_cons_self⟩
      · exact ih (List.mem_cons_of_mem _ later)

theorem intercalate_append {before after : List Bytes} (some : before ≠ []) (more : after ≠ []) :
    [slash].intercalate (before ++ after) =
      [slash].intercalate before ++ slash :: [slash].intercalate after := by
  induction before with
  | nil => exact absurd rfl some
  | cons first others ih =>
    cases others with
    | nil =>
      obtain ⟨head, tail, rfl⟩ := List.exists_cons_of_ne_nil more
      rw [List.singleton_append, List.intercalate_cons_cons, List.intercalate_singleton,
        List.append_assoc, List.singleton_append]
    | cons second rest =>
      rw [List.cons_append, List.cons_append, List.intercalate_cons_cons, ← List.cons_append,
        ih (List.cons_ne_nil _ _), List.intercalate_cons_cons]
      simp only [List.append_assoc]

/-- A path that ends in nothing after a slash ends in the slash. -/
theorem getLast?_of_segments {bytes : Bytes} {front : List Bytes} (written : bytes ≠ [])
    (slashed : segments ⟨bytes⟩ = front ++ [[]]) : bytes.getLast? = some slash := by
  have joined : [slash].intercalate (front ++ [[]]) = bytes := by
    rw [← slashed]
    exact List.intercalate_splitOn slash
  cases front with
  | nil => exact absurd joined.symm written
  | cons first others =>
    rw [← joined, intercalate_append (List.cons_ne_nil _ _) (List.cons_ne_nil _ _)]
    exact List.getLast?_concat

/-- **The path of a name in a folder leads into the folder and to the name.** -/
theorem segments_join (unslashed : slash ∉ name) :
    (folder.join ⟨name⟩).segments = folder.inside ++ [name] := by
  obtain ⟨bytes⟩ := folder
  rw [join, isAbsolute_of_unslashed unslashed, Bool.false_or]
  by_cases empty : bytes = []
  · subst empty
    exact segments_of_unslashed unslashed
  · rw [if_neg (by simpa using empty)]
    by_cases slashed : bytes.getLast? = some slash
    · obtain ⟨front, rfl⟩ := List.getLast?_eq_some_iff.mp slashed
      have whole : segments ⟨front ++ [slash]⟩ = segments ⟨front⟩ ++ [[]] :=
        List.splitOn_append_cons_self front []
      rw [if_pos slashed, inside, whole, List.getLast?_concat, if_pos rfl, List.dropLast_concat]
      show ((front ++ [slash]) ++ name).splitOn slash = _
      rw [List.append_assoc, List.singleton_append, List.splitOn_append_cons_self,
        List.splitOn_eq_singleton unslashed]
      rfl
    · have whole : segments ⟨bytes⟩ = inside ⟨bytes⟩ :=
        (segments_eq_inside ⟨bytes⟩).resolve_right fun more =>
          slashed (getLast?_of_segments empty more)
      rw [if_neg slashed, ← whole]
      show (bytes ++ slash :: name).splitOn slash = _
      rw [List.splitOn_append_cons_self, List.splitOn_eq_singleton unslashed]
      rfl

theorem isAbsolute_join (unslashed : slash ∉ name) :
    (folder.join ⟨name⟩).isAbsolute = folder.isAbsolute := by
  obtain ⟨bytes⟩ := folder
  rw [join, isAbsolute_of_unslashed unslashed, Bool.false_or]
  cases bytes with
  | nil => exact isAbsolute_of_unslashed unslashed
  | cons first others =>
    rw [if_neg (by simp)]
    split
    · rfl
    · rfl

/-- What is written before the names in a folder does not depend on the names. -/
theorem join_bytes (folder : FilePath) :
    ∃ front, ∀ {name : Bytes}, slash ∉ name → (folder.join ⟨name⟩).bytes = front ++ name := by
  obtain ⟨bytes⟩ := folder
  by_cases empty : bytes.isEmpty = true
  · refine ⟨[], fun unslashed => ?_⟩
    rw [join, isAbsolute_of_unslashed unslashed, Bool.false_or, if_pos empty]
    rfl
  · by_cases slashed : bytes.getLast? = some slash
    · refine ⟨bytes, fun unslashed => ?_⟩
      rw [join, isAbsolute_of_unslashed unslashed, Bool.false_or, if_neg empty, if_pos slashed]
    · refine ⟨bytes ++ [slash], fun unslashed => ?_⟩
      rw [join, isAbsolute_of_unslashed unslashed, Bool.false_or, if_neg empty, if_neg slashed,
        List.append_assoc]
      rfl

/-- What is written of a folder is the beginning of the path of a name in it. -/
theorem prefix_join (folder : FilePath) (unslashed : slash ∉ name) :
    folder.bytes <+: (folder.join ⟨name⟩).bytes := by
  rw [join, isAbsolute_of_unslashed unslashed, Bool.false_or]
  split
  · rename_i empty
    rw [List.isEmpty_iff.mp empty]
    exact List.nil_prefix
  · split
    · exact List.prefix_append _ _
    · exact List.prefix_append _ _

/-- **A path that does not end in a slash is its last segment in a folder.** -/
theorem exists_join {path : FilePath} (written : path.bytes ≠ [])
    (open_ended : path.bytes.getLast? ≠ some slash) :
    ∃ (folder : FilePath) (last : Bytes),
      last ≠ [] ∧ slash ∉ last ∧ path = folder.join ⟨last⟩ := by
  obtain ⟨bytes⟩ := path
  rcases List.eq_nil_or_concat (segments ⟨bytes⟩) with none | ⟨front, last, whole⟩
  · exact absurd none (List.splitOn_ne_nil slash bytes)
  · rw [List.concat_eq_append] at whole
    have filled : last ≠ [] := by
      rintro rfl
      exact open_ended (getLast?_of_segments written whole)
    have unslashed : slash ∉ last := by
      refine @unslashed_of_mem_segments ⟨bytes⟩ last ?_
      rw [whole]
      exact List.mem_append_right _ List.mem_cons_self
    have joined : [slash].intercalate (front ++ [last]) = bytes := by
      rw [← whole]
      exact List.intercalate_splitOn slash
    cases front with
    | nil =>
      refine ⟨⟨[]⟩, last, filled, unslashed, ?_⟩
      rw [List.nil_append, List.intercalate_singleton] at joined
      rw [join, isAbsolute_of_unslashed unslashed, joined]
      rfl
    | cons first others =>
      refine ⟨⟨[slash].intercalate (first :: others) ++ [slash]⟩, last, filled, unslashed, ?_⟩
      rw [intercalate_append (List.cons_ne_nil _ _) (List.cons_ne_nil _ _),
        List.intercalate_singleton] at joined
      rw [join, isAbsolute_of_unslashed unslashed, Bool.false_or, if_neg (by simp),
        if_pos List.getLast?_concat, ← joined, List.append_assoc]
      rfl

/-- **A name in a folder is one component more.** -/
theorem components_join (named : IsName name) :
    (folder.join ⟨name⟩).components = folder.components ++ [.name name] := by
  have component : Component.ofSegment? name = some (.name name) := by
    rw [Component.ofSegment?, named.solid, if_neg Bool.false_ne_true, if_neg named.inner]
  have inside : folder.inside.filterMap Component.ofSegment? =
      folder.segments.filterMap Component.ofSegment? := by
    rcases segments_eq_inside folder with same | filled
    · rw [same]
    · rw [filled, List.filterMap_append]
      exact (List.append_nil _).symm
  have start : (folder.join ⟨name⟩).start? = folder.start? := by
    have head : (folder.inside ++ [name]).head? = some [dot] ↔
        folder.segments.head? = some [dot] := by
      cases first : folder.inside with
      | nil =>
        have notDot : name ≠ [dot] := fun same => absurd named.solid (same ▸ by decide)
        rcases segments_eq_inside folder with same | filled
        · simp [same, first, notDot]
        · simp [filled, first, notDot]
      | cons segment others =>
        rcases segments_eq_inside folder with same | filled
        · rw [same, first]
          rfl
        · rw [filled, first]
          rfl
    rw [start?, start?, isAbsolute_join named.unslashed, segments_join named.unslashed]
    simp only [head]
  rw [components, components, start, segments_join named.unslashed, List.filterMap_append, inside,
    List.filterMap_cons, component, List.filterMap_nil, List.append_assoc]

theorem fileName?_join (named : IsName name) : (folder.join ⟨name⟩).fileName? = some name := by
  rw [fileName?, components_join named, List.getLast?_concat]

/-! ### Parents -/

/-- The folder of a name, by the segments that lead into it. -/
def parentOf : List Bytes → FilePath
  | [] => ⟨[]⟩
  | first :: others => ofSegments (first :: withoutFillers others)

theorem withoutFillers_concat {segments : List Bytes} (solid : isFiller name = false) :
    withoutFillers (segments ++ [name]) = segments ++ [name] := by
  rw [withoutFillers, List.reverse_concat, List.dropWhile_cons_of_neg (by simp [solid]),
    List.reverse_cons, List.reverse_reverse]

theorem parent?_join (named : IsName name) :
    (folder.join ⟨name⟩).parent? = some (parentOf folder.inside) := by
  rw [parent?, segments_join named.unslashed]
  cases folder.inside with
  | nil => simp [withoutFillers, parentOf, named.ne_nil]
  | cons first others =>
    obtain ⟨second, rest, kept⟩ := List.exists_cons_of_ne_nil
      (List.append_ne_nil_of_right_ne_nil others (List.cons_ne_nil name []))
    have dropped : (second :: rest).dropLast = others := by rw [← kept, List.dropLast_concat]
    simp only [List.cons_append, withoutFillers_concat named.solid]
    simp only [kept, dropped]
    rfl

/-- What is left out at the end of segments stands for nothing. -/
theorem withoutFillers_append (segments : List Bytes) :
    ∃ fillers, withoutFillers segments ++ fillers = segments ∧
      ∀ filler ∈ fillers, isFiller filler = true := by
  refine ⟨(segments.reverse.takeWhile isFiller).reverse, ?_, fun filler member => ?_⟩
  · rw [withoutFillers, ← List.reverse_append, List.takeWhile_append_dropWhile,
      List.reverse_reverse]
  · exact List.all_eq_true.mp List.all_takeWhile filler (List.mem_reverse.mp member)

section Parent

variable {first : Bytes} {others : List Bytes}

/-- **The parent is written with the segments that lead into the folder**, up to segments at the end
that stand for nothing. -/
theorem segments_parentOf (unslashed : ∀ segment ∈ first :: others, slash ∉ segment) :
    ∃ kept left added, kept ++ left = first :: others ∧
      (parentOf (first :: others)).segments = kept ++ added ∧
      ∀ filler ∈ left ++ added, isFiller filler = true := by
  obtain ⟨left, whole, filling⟩ := withoutFillers_append others
  have rest : ∀ segment ∈ first :: withoutFillers others, slash ∉ segment := by
    intro segment member
    refine unslashed segment ?_
    rw [← whole]
    exact List.cons_subset_cons first (List.subset_append_left _ left) member
  by_cases root : first :: withoutFillers others = [[]]
  · refine ⟨first :: withoutFillers others, left, [[]], by rw [List.cons_append, whole], ?_, ?_⟩
    · rw [parentOf, ofSegments, if_pos root, root]
      rfl
    · intro filler member
      rcases List.mem_append.mp member with inLeft | isEmpty
      · exact filling filler inLeft
      · rw [List.mem_singleton.mp isEmpty]
        rfl
  · refine ⟨first :: withoutFillers others, left, [], by rw [List.cons_append, whole], ?_, ?_⟩
    · rw [parentOf, ofSegments, if_neg root, List.append_nil]
      exact List.splitOn_intercalate slash rest (List.cons_ne_nil _ _)
    · rw [List.append_nil]
      exact filling

/-- The parent is written with the first bytes of the path, at least one. -/
theorem parentOf_prefix (folder : FilePath) (name : Bytes)
    (inside : folder.inside = first :: others) (unslashed : slash ∉ name) :
    (parentOf (first :: others)).bytes <+: (folder.join ⟨name⟩).bytes ∧
      (parentOf (first :: others)).bytes ≠ [] := by
  obtain ⟨left, whole, -⟩ := withoutFillers_append others
  have written : (folder.join ⟨name⟩).bytes =
      [slash].intercalate ((first :: withoutFillers others) ++ (left ++ [name])) := by
    rw [← List.append_assoc, List.cons_append, whole, ← inside, ← segments_join unslashed]
    exact (List.intercalate_splitOn slash).symm
  rw [intercalate_append (List.cons_ne_nil _ _) (List.append_ne_nil_of_right_ne_nil _
    (List.cons_ne_nil _ _))] at written
  rw [written, parentOf, ofSegments]
  by_cases root : first :: withoutFillers others = [[]]
  · rw [if_pos root, root]
    exact ⟨⟨_, rfl⟩, List.cons_ne_nil _ _⟩
  · rw [if_neg root]
    refine ⟨List.prefix_append _ _, ?_⟩
    cases kept : withoutFillers others with
    | nil =>
      rw [kept] at root
      rw [List.intercalate_singleton]
      exact fun empty => root (congrArg (fun bytes => [bytes]) empty)
    | cons second rest =>
      rw [List.intercalate_cons_cons, List.append_assoc]
      exact List.append_ne_nil_of_right_ne_nil _ (List.cons_ne_nil _ _)

end Parent

/-! ### Ranks -/

theorem Component.order_inj {first second : Component} :
    first.order = second.order ↔ first = second := by
  refine ⟨fun same => ?_, congrArg order⟩
  cases first <;> cases second <;> simp_all [order]

/-- Paths have the same rank just if they are the same. -/
theorem order_inj {first second : FilePath} :
    first.order = second.order ↔ first.components = second.components :=
  List.map_inj_right fun _ _ => Component.order_inj.mp

end ApkFeatures.FilePath
