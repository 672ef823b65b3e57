/-
**When folders can be made.**

The folders of a path are made from the highest one that is missing, so what decides is whether a
file stands in the way. Which folders exist already decides nothing, and no folders are made but
those that the path goes through.

* `Passes`, `Enters` — the folders that a path goes through, and those that its names lead to.
* `OnlyMakes`, `createFolders_onlyMakes` — making the folders of a path makes no others.
* `isFolder_of_makeFolder`, `isFolder_of_createFoldersWithin` — what has been made is there.
* `Admits` — no file stands in the way of the folders of a path.
* `createFolders_join_iff` — the folders of a path can be made just if nothing stands in the way.
-/
import ApkFeatures.Proofs.FileTree.Descending

namespace ApkFeatures

namespace FilePath

variable {path parent folder : FilePath} {first last name : Bytes} {others front more : List Bytes}
  {base place : Location}

/-- A path goes through the folders below its start that lie above its end, and through its end. -/
structure Passes (path : FilePath) (base place : Location) : Prop where
  /-- The folder lies below the start. -/
  below : path.origin base <:+ place
  /-- It is not the start itself. -/
  proper : place ≠ path.origin base
  /-- The end of the path lies in it, or is the folder. -/
  above : place <:+ path.placeFrom base

/-- A path enters the places of its names: each lies in the folder to which the segments before it
lead. -/
def Enters (path : FilePath) (base place : Location) : Prop :=
  ∃ (front : List Bytes) (name : Bytes), front ++ [name] <+: path.segments ∧
    isFiller name = false ∧ name ≠ [dot, dot] ∧
      place = name :: front.foldl lead (path.origin base)

/-- A path that only leads downwards goes through what it enters. -/
theorem Enters.passes (enters : path.Enters base place) (descends : path.Descends) :
    path.Passes base place := by
  obtain ⟨front, name, ⟨rest, whole⟩, solid, inner, rfl⟩ := enters
  have down := descends_iff.mp descends
  rw [← whole, List.mem_append, List.mem_append, not_or, not_or] at down
  have above := suffix_foldl_lead down.1.1 (path.origin base)
  have last : lead (front.foldl lead (path.origin base)) name =
      name :: front.foldl lead (path.origin base) := by
    rw [lead, solid, if_neg Bool.false_ne_true, if_neg inner]
  refine ⟨above.trans (List.suffix_cons _ _), fun same => ?_, ?_⟩
  · have length := congrArg List.length same
    have longer := above.length_le
    rw [List.length_cons] at length
    omega
  · rw [placeFrom, ← whole, List.foldl_append, List.foldl_append, List.foldl_cons, List.foldl_nil,
      last]
    exact suffix_foldl_lead down.2 _

/-! ### Parents -/

/-- Between the segments of a path there are slashes. -/
theorem length_segments_le (path : FilePath) : path.segments.length ≤ path.bytes.length + 1 := by
  obtain ⟨bytes⟩ := path
  induction bytes with
  | nil => exact Nat.le_refl 1
  | cons byte rest ih =>
    change (rest.splitOn slash).length ≤ rest.length + 1 at ih
    show ((byte :: rest).splitOn slash).length ≤ rest.length + 1 + 1
    rw [List.splitOn_cons_eq_if_modifyHead]
    by_cases isSlash : (byte == slash) = true
    · rw [if_pos isSlash, List.length_cons]
      omega
    · rw [if_neg isSlash, List.length_modifyHead]
      omega

theorem isAbsolute_iff (segments : path.segments = first :: more) (written : more ≠ []) :
    path.isAbsolute = true ↔ first = [] := by
  obtain ⟨bytes⟩ := path
  cases bytes with
  | nil =>
    rw [FilePath.segments, List.splitOn_nil] at segments
    cases segments
    exact absurd rfl written
  | cons byte rest =>
    rw [FilePath.segments, List.splitOn_cons_eq_if_modifyHead] at segments
    obtain ⟨head, tail, pieces⟩ := List.exists_cons_of_ne_nil (List.splitOn_ne_nil slash rest)
    rw [pieces] at segments
    by_cases isSlash : byte = slash
    · simp only [isSlash, beq_self_eq_true, if_true, List.cons.injEq] at segments
      simp [isAbsolute, isSlash, segments.1.symm]
    · simp only [beq_iff_eq, isSlash, if_false, List.modifyHead_cons, List.cons.injEq] at segments
      simp [isAbsolute, isSlash, segments.1.symm]

section Parent

variable (unslashed : ∀ segment ∈ first :: others, slash ∉ segment)

include unslashed

theorem parentOf_cases :
    first :: withoutFillers others ≠ [[]] ∧
        (parentOf (first :: others)).segments = first :: withoutFillers others ∨
      first :: withoutFillers others = [[]] ∧ (parentOf (first :: others)).segments = [[], []] := by
  obtain ⟨left, whole, -⟩ := withoutFillers_append others
  rw [parentOf, ofSegments]
  by_cases root : first :: withoutFillers others = [[]]
  · rw [if_pos root]
    exact .inr ⟨root, rfl⟩
  · rw [if_neg root]
    refine .inl ⟨root, List.splitOn_intercalate slash (fun segment member => ?_)
      (List.cons_ne_nil _ _)⟩
    refine unslashed segment ?_
    rw [← whole]
    exact List.cons_subset_cons first (List.subset_append_left _ left) member

/-- What is left out of the parent of some segments stands for nothing. -/
theorem foldl_lead_parentOf (start : Location) :
    (parentOf (first :: others)).segments.foldl lead start =
      (first :: others).foldl lead start := by
  obtain ⟨left, whole, filling⟩ := withoutFillers_append others
  have kept : (first :: withoutFillers others).foldl lead start =
      (first :: others).foldl lead start :=
    calc (first :: withoutFillers others).foldl lead start
        = left.foldl lead ((first :: withoutFillers others).foldl lead start) :=
          (FileTree.foldl_lead_fillers filling).symm
      _ = (first :: others).foldl lead start := by
          rw [← List.foldl_append, List.cons_append, whole]
  rw [← kept]
  rcases parentOf_cases unslashed with ⟨-, same⟩ | ⟨root, same⟩
  · rw [same]
  · rw [same, root]
    rfl

theorem mem_parentOf {segment : Bytes}
    (member : segment ∈ (parentOf (first :: others)).segments) :
    segment ∈ first :: others ∨ segment = [] := by
  obtain ⟨left, whole, -⟩ := withoutFillers_append others
  rcases parentOf_cases unslashed with ⟨-, same⟩ | ⟨-, same⟩
  · rw [same, List.mem_cons] at member
    refine .inl (List.mem_cons.mpr (member.imp_right fun kept => ?_))
    rw [← whole]
    exact List.mem_append_left _ kept
  · rw [same] at member
    simp only [List.mem_cons, List.not_mem_nil, or_false, or_self] at member
    exact .inr member

/-- The parent of a path starts where the path does. -/
theorem origin_parentOf (segments : path.segments = first :: more) (written : more ≠ [])
    (base : Location) : (parentOf (first :: others)).origin base = path.origin base := by
  have absolute : (parentOf (first :: others)).isAbsolute = true ↔ first = [] := by
    rcases parentOf_cases unslashed with ⟨inner, same⟩ | ⟨root, same⟩
    · cases kept : withoutFillers others with
      | nil =>
        rw [kept] at inner same
        have first_ne : first ≠ [] := fun empty => inner (by rw [empty])
        have relative : (parentOf (first :: others)).isAbsolute = false := by
          have bytes : (parentOf (first :: others)).bytes = first := by
            rw [parentOf, kept, ofSegments, if_neg inner, List.intercalate_singleton]
          rw [show parentOf (first :: others) = ⟨first⟩ from congrArg FilePath.mk bytes]
          exact isAbsolute_of_unslashed (unslashed first List.mem_cons_self)
        simp [relative, first_ne]
      | cons second rest =>
        rw [kept] at same
        exact isAbsolute_iff same (List.cons_ne_nil _ _)
    · cases (List.cons.inj root).1
      exact isAbsolute_iff same (List.cons_ne_nil _ _)
  have same : (parentOf (first :: others)).isAbsolute = path.isAbsolute :=
    Bool.eq_iff_iff.mpr (absolute.trans (isAbsolute_iff segments written).symm)
  rw [origin, origin, same]

/-- What is entered on the way to the parent of some segments is entered by a path that begins with
these. -/
theorem Enters.of_parentOf (beginning : first :: others <+: path.segments)
    (origin : (parentOf (first :: others)).origin base = path.origin base)
    (enters : (parentOf (first :: others)).Enters base place) : path.Enters base place := by
  obtain ⟨front, name, part, solid, inner, rfl⟩ := enters
  obtain ⟨left, whole, -⟩ := withoutFillers_append others
  rcases parentOf_cases unslashed with ⟨-, same⟩ | ⟨-, same⟩
  · have kept : first :: withoutFillers others <+: first :: others :=
      ⟨left, by rw [List.cons_append, whole]⟩
    rw [same] at part
    exact ⟨front, name, (part.trans kept).trans beginning, solid, inner, by rw [origin]⟩
  · have member := part.subset (List.mem_append_right front List.mem_cons_self)
    rw [same] at member
    simp only [List.mem_cons, List.not_mem_nil, or_false, or_self] at member
    rw [member] at solid
    cases solid

end Parent

theorem unslashed_inside (folder : FilePath) : ∀ segment ∈ folder.inside, slash ∉ segment :=
  fun _ member => unslashed_of_mem_segments (mem_inside_of_mem member)

/-- **The parent of a name in a folder leads where the folder does.** -/
theorem leads_parentOf (inside : folder.inside = first :: others) (base : Location) :
    (parentOf folder.inside).origin base = folder.origin base ∧
      (parentOf folder.inside).placeFrom base = folder.placeFrom base := by
  have unslashed := unslashed_inside folder
  have segments : (folder.join ⟨[dot]⟩).segments = first :: (others ++ [[dot]]) := by
    rw [segments_join (by decide), inside]
    rfl
  rw [inside] at unslashed ⊢
  have origin := (origin_parentOf unslashed segments (by simp) base).trans
    (origin_join (by decide) base)
  refine ⟨origin, ?_⟩
  rw [placeFrom, foldl_lead_parentOf unslashed, origin, placeFrom_eq_inside, inside]

theorem solid_of_withoutFillers {segments : List Bytes}
    (kept : withoutFillers segments = front ++ [last]) : isFiller last = false := by
  have dropped : segments.reverse.dropWhile isFiller = last :: front.reverse := by
    rw [withoutFillers, List.reverse_eq_iff, List.reverse_concat] at kept
    exact kept
  have some : segments.reverse.dropWhile isFiller ≠ [] := by
    rw [dropped]
    exact List.cons_ne_nil _ _
  have stays := List.head_dropWhile_not isFiller some
  simpa [dropped] using stays

/-- The parent of a path leaves out its last name and what stands for nothing around it. -/
theorem parent?_cases (found : path.parent? = some parent) :
    parent.bytes = [] ∨ ∃ first others last fillers,
      path.segments = first :: (others ++ last :: fillers) ∧ parent = parentOf (first :: others) ∧
        ∀ filler ∈ fillers, isFiller filler = true := by
  unfold parent? at found
  split at found
  · cases found
  · rename_i first others segments
    obtain ⟨fillers, whole, filling⟩ := withoutFillers_append others
    split at found
    · split at found
      · cases found
      · cases found
        exact .inl rfl
    · rename_i kept some
      cases found
      rcases List.eq_nil_or_concat (withoutFillers others) with none | ⟨front, last, ending⟩
      · exact absurd none some
      · rw [List.concat_eq_append] at ending
        refine .inr ⟨first, front, last, fillers, ?_, ?_, filling⟩
        · rw [segments, ← whole, ending, List.append_assoc]
          rfl
        · rw [ending, List.dropLast_concat]
          rfl

/-- **What is entered on the way to the parent of a path is entered by the path.** -/
theorem Enters.of_parent? (found : path.parent? = some parent) (written : parent.bytes ≠ [])
    (enters : parent.Enters base place) : path.Enters base place := by
  obtain ⟨first, others, last, fillers, segments, rfl, -⟩ :=
    (parent?_cases found).resolve_left written
  have beginning : first :: others <+: path.segments := ⟨last :: fillers, segments.symm⟩
  have unslashed : ∀ segment ∈ first :: others, slash ∉ segment := fun segment member =>
    unslashed_of_mem_segments (beginning.subset member)
  exact enters.of_parentOf unslashed beginning (origin_parentOf unslashed segments (by simp) base)

/-- What is entered on the way to the parent of a name in a folder is entered by the folder. -/
theorem Enters.of_folder (enters : (parentOf folder.inside).Enters base place) :
    folder.Enters base place := by
  have unslashed := unslashed_inside folder
  cases inside : folder.inside with
  | nil =>
    rw [inside] at enters
    obtain ⟨front, name, part, solid, -⟩ := enters
    have member := part.subset (List.mem_append_right front List.mem_cons_self)
    rw [show (parentOf []).segments = [[]] from rfl, List.mem_singleton] at member
    rw [member] at solid
    cases solid
  | cons first others =>
    obtain ⟨origin, -⟩ := leads_parentOf inside base
    have beginning : folder.inside <+: folder.segments := by
      rcases segments_eq_inside folder with same | slashed
      · exact same ▸ List.prefix_refl _
      · exact slashed ▸ List.prefix_append _ _
    rw [inside] at enters origin unslashed beginning
    exact enters.of_parentOf unslashed beginning origin

/-- What a folder enters is entered on the way to a name in it. -/
theorem Enters.join (named : IsName name) (enters : folder.Enters base place) :
    (folder.join ⟨name⟩).Enters base place := by
  obtain ⟨front, last, part, solid, inner, rfl⟩ := enters
  have origin := @origin_join folder name named.unslashed base
  refine ⟨front, last, ?_, solid, inner, by rw [origin]⟩
  rw [segments_join named.unslashed]
  refine List.IsPrefix.trans ?_ (List.prefix_append folder.inside [name])
  rcases segments_eq_inside folder with same | slashed
  · exact same ▸ part
  · rw [slashed] at part
    refine (List.prefix_concat_iff.mp part).resolve_left fun whole => ?_
    rw [(List.cons.inj (List.append_inj_right' whole rfl)).1] at solid
    cases solid

/-- A folder with the given segments that lead into it. -/
def folderOf (segments : List Bytes) : FilePath := ⟨[slash].intercalate segments ++ [slash]⟩

theorem folderOf_inside (unslashed : ∀ segment ∈ first :: front, slash ∉ segment) :
    (folderOf (first :: front)).inside = first :: front := by
  have segments : (folderOf (first :: front)).segments = (first :: front) ++ [[]] := by
    show ([slash].intercalate (first :: front) ++ slash :: []).splitOn slash = _
    rw [List.splitOn_append_cons_self, List.splitOn_intercalate slash unslashed (by simp)]
    rfl
  rw [inside, segments, List.getLast?_concat, if_pos rfl, List.dropLast_concat]

theorem folderOf_join (unslashed : slash ∉ name) :
    (folderOf (first :: front)).join ⟨name⟩ = ofSegments (first :: (front ++ [name])) := by
  rw [join, isAbsolute_of_unslashed unslashed, Bool.false_or, folderOf, ofSegments,
    if_neg (by simp), if_pos List.getLast?_concat, if_neg (by simp), ← List.cons_append,
    intercalate_append (List.cons_ne_nil _ _) (List.cons_ne_nil _ _), List.intercalate_singleton,
    List.append_assoc]
  rfl

/-- A folder with segments that do not lead up does not lead up. -/
theorem descends_folderOf (unslashed : ∀ segment ∈ first :: front, slash ∉ segment)
    (down : [dot, dot] ∉ first :: front) : (folderOf (first :: front)).Descends := by
  refine descends_iff.mpr fun member => ?_
  rcases segments_eq_inside (folderOf (first :: front)) with same | slashed
  · rw [same, folderOf_inside unslashed] at member
    exact down member
  · rw [slashed, folderOf_inside unslashed, List.mem_append, List.mem_singleton] at member
    rcases member with member | empty
    · exact down member
    · cases empty

/-- Where only fillers follow a name, it lies in the folder in which the path starts. -/
theorem parentOf_fillers {others : List Bytes} (none : withoutFillers others = [])
    (named : IsName first) : parentOf (first :: others) = join ⟨[]⟩ ⟨first⟩ := by
  rw [parentOf, none, ofSegments, if_neg (by simpa using named.ne_nil),
    List.intercalate_singleton, join, isAbsolute_of_unslashed named.unslashed]
  rfl

/-- **The parent of a name in a folder is again a name in a folder**, unless the folder is where the
path starts. -/
theorem exists_join_of_parentOf (descends : folder.Descends)
    (elsewhere : folder.placeFrom base ≠ folder.origin base) :
    ∃ (above : FilePath) (last : Bytes), above.Descends ∧ IsName last ∧
      parentOf folder.inside = above.join ⟨last⟩ ∧
        above.inside.length < folder.inside.length := by
  have down := descends.inside
  rw [placeFrom_eq_inside] at elsewhere
  have unslashed := unslashed_inside folder
  cases inside : folder.inside with
  | nil =>
    rw [inside] at elsewhere
    exact absurd rfl elsewhere
  | cons first others =>
    rw [inside] at elsewhere down unslashed
    obtain ⟨left, whole, filling⟩ := withoutFillers_append others
    rcases List.eq_nil_or_concat (withoutFillers others) with none | ⟨front, last, ending⟩
    · -- Only the first segment stands for something.
      have rest : others.foldl lead (lead (folder.origin base) first) =
          lead (folder.origin base) first := by
        rw [none, List.nil_append] at whole
        exact FileTree.foldl_lead_fillers (whole ▸ filling)
      rw [List.foldl_cons, rest] at elsewhere
      have solid : isFiller first = false :=
        Bool.eq_false_iff.mpr fun filler => elsewhere (lead_filler filler)
      rw [List.mem_cons, not_or] at down
      have named : IsName first := ⟨unslashed first List.mem_cons_self, solid, Ne.symm down.1⟩
      exact ⟨⟨[]⟩, first, by decide, named, parentOf_fillers none named, Nat.succ_pos _⟩
    · rw [List.concat_eq_append] at ending
      rw [ending, List.append_assoc] at whole
      have inOthers : ∀ segment ∈ front ++ [last], segment ∈ others := fun segment member => by
        rw [← whole, ← List.append_assoc]
        exact List.mem_append_left _ member
      have named : IsName last := by
        have member := inOthers last (by simp)
        exact ⟨unslashed last (List.mem_cons_of_mem _ member), solid_of_withoutFillers ending,
          fun up => down (up ▸ List.mem_cons_of_mem _ member)⟩
      have lower : ∀ segment ∈ first :: front, segment ∈ first :: others :=
        List.cons_subset_cons first fun segment member => inOthers segment (by simp [member])
      have apart : ∀ segment ∈ first :: front, slash ∉ segment := fun segment member =>
        unslashed segment (lower segment member)
      refine ⟨folderOf (first :: front), last, descends_folderOf apart (mt (lower _) down), named,
        ?_, ?_⟩
      · rw [folderOf_join named.unslashed, parentOf, ending]
      · rw [folderOf_inside apart, ← whole]
        simp

end FilePath

namespace FileTree

open FilePath

variable {tree before between after made : FileTree} {place : Location} {path folder : FilePath}
  {name : Bytes} {folders more : Location → Prop}

/-! ### Folders that are made -/

/-- Only some folders are made between two trees. -/
def OnlyMakes (folders : Location → Prop) (before after : FileTree) : Prop :=
  ∀ place, after.lookup? place = some .folder → before.lookup? place = some .folder ∨ folders place

namespace OnlyMakes

theorem refl (folders : Location → Prop) (tree : FileTree) : OnlyMakes folders tree tree :=
  fun _ => .inl

theorem mono (only : OnlyMakes folders before after) (within : ∀ place, folders place → more place) :
    OnlyMakes more before after := fun place found => (only place found).imp_right (within place)

theorem trans (first : OnlyMakes folders before between) (second : OnlyMakes folders between after) :
    OnlyMakes folders before after := fun place found => (second place found).elim (first place) .inr

end OnlyMakes

/-- What a path gives a name to lies at the end of the path, and is entered by it. -/
theorem slot_place {slot : Slot tree} (given : tree.slot? path = .ok (some slot)) :
    slot.place = path.placeFrom tree.workingFolder ∧ path.Enters tree.workingFolder slot.place := by
  obtain ⟨-, followed, last, solid, inner, -⟩ := slot?_eq_some_iff.mp given
  obtain ⟨slashes, whole, filling⟩ := steps_append path
  have ending : (steps path).dropLast ++ [slot.name] = steps path := by
    obtain ⟨front, same⟩ := List.getLast?_eq_some_iff.mp last
    rw [same, List.dropLast_concat]
  refine ⟨?_, (steps path).dropLast, slot.name, ?_, solid, of_decide_eq_false inner, ?_⟩
  · rw [placeFrom, whole, List.foldl_append, foldl_lead_fillers filling, ← ending,
      List.foldl_append, ← follow_place followed, Slot.place]
    simp [lead, solid, of_decide_eq_false inner]
  · rw [ending, whole]
    exact List.prefix_append _ _
  · rw [Slot.place, follow_place followed]

/-- What is made as a folder was nothing before. -/
theorem makeFolder_eq_ok (made : tree.makeFolder path = .ok after) :
    ∃ slot : Slot tree, tree.slot? path = .ok (some slot) ∧ tree.lookup? slot.place = none ∧
      ∀ place, after.lookup? place =
        if place = slot.place then some .folder else tree.lookup? place := by
  obtain ⟨found, given, rest⟩ := Fallible.bind_eq_ok_iff.mp made
  cases found with
  | none => cases rest
  | some slot =>
    dsimp only at rest
    split at rest
    · cases rest
    · rename_i free
      cases rest
      exact ⟨slot, given, free, fun place => lookup?_put ..⟩

theorem makeFolder_onlyMakes (made : tree.makeFolder path = .ok after) :
    OnlyMakes (path.Enters tree.workingFolder) tree after := by
  obtain ⟨slot, given, -, lookup⟩ := makeFolder_eq_ok made
  intro place found
  by_cases here : place = slot.place
  · exact .inr (here ▸ (slot_place given).2)
  · rw [lookup, if_neg here] at found
    exact .inl found

theorem ensureFolder_onlyMakes (tree : FileTree) (path : FilePath) :
    OnlyMakes (path.Enters tree.workingFolder) tree (tree.ensureFolder path).2 := by
  unfold ensureFolder
  cases made : tree.makeFolder path with
  | ok after => exact makeFolder_onlyMakes made
  | error fault => exact .refl _ tree

theorem createFoldersWithin_onlyMakes (depth : Nat) :
    ∀ (tree : FileTree) (path : FilePath),
      OnlyMakes (path.Enters tree.workingFolder) tree (createFoldersWithin depth tree path).2 := by
  induction depth with
  | zero =>
    intro tree path
    unfold createFoldersWithin
    split
    · exact .refl _ tree
    · split
      · exact makeFolder_onlyMakes ‹_›
      · exact .refl _ tree
      · exact .refl _ tree
  | succ depth ih =>
    intro tree path
    unfold createFoldersWithin
    split
    · exact .refl _ tree
    · split
      · exact makeFolder_onlyMakes ‹_›
      · split
        · rename_i parent below found
          cases below
          have above : OnlyMakes (path.Enters tree.workingFolder) tree
              (createFoldersWithin depth tree parent).2 := by
            by_cases written : parent.bytes = []
            · unfold createFoldersWithin
              rw [written]
              exact .refl _ tree
            · exact (ih tree parent).mono fun place enters => enters.of_parent? found written
          have based := (createFoldersWithin_onlyWrites depth tree parent).workingFolder
          rcases made : createFoldersWithin depth tree parent with ⟨fault | done, reached⟩
          · rw [made] at above
            exact above
          · rw [made] at above based
            have last := ensureFolder_onlyMakes reached path
            rw [based] at last
            exact above.trans last
        · exact .refl _ tree
      · exact .refl _ tree

/-- **Making the folders of a path makes no others.** -/
theorem createFolders_onlyMakes (tree : FileTree) (path : FilePath) :
    OnlyMakes (path.Enters tree.workingFolder) tree (tree.createFolders path).2 :=
  createFoldersWithin_onlyMakes _ tree path

/-- Writing a file makes no folder. -/
theorem write_onlyMakes (folders : Location → Prop) {content : Bytes}
    (written : tree.write path content = .ok after) : OnlyMakes folders tree after := by
  obtain ⟨slot, -, -, -, executable, lookup⟩ := putFile_eq_ok written
  intro place found
  rw [lookup] at found
  by_cases here : place = slot.place
  · rw [if_pos here] at found
    cases found
  · rw [if_neg here] at found
    exact .inl found

/-! ### Folders that have been made -/

/-- **A folder that has been made is there.** -/
theorem isFolder_of_makeFolder (made : tree.makeFolder path = .ok after) :
    after.isFolder path = true := by
  have only := makeFolder_onlyWrites made
  obtain ⟨slot, given, -, lookup⟩ := makeFolder_eq_ok made
  obtain ⟨usable, followed, last, solid, inner, short⟩ := slot?_eq_some_iff.mp given
  obtain ⟨slashes, whole, filling⟩ := steps_append path
  obtain ⟨front, ending⟩ := List.getLast?_eq_some_iff.mp last
  have here : after.lookup? slot.place = some .folder := by rw [lookup, if_pos rfl]
  have named : lead slot.folder slot.name = slot.place := by
    rw [lead, solid, if_neg Bool.false_ne_true, if_neg (of_decide_eq_false inner)]
    rfl
  refine isFolder_iff.mpr ⟨slot.place, find?_eq_ok_iff.mpr
    ⟨locate_eq_ok_iff.mpr ⟨usable, ?_⟩, here⟩⟩
  rw [ending, List.dropLast_concat] at followed
  rw [only.workingFolder, whole, ending, List.append_assoc, List.singleton_append]
  refine follow_append.mpr ⟨slot.folder, only.follow followed, follow_cons.mpr
    ⟨only.folder slot.inFolder, short, ?_⟩⟩
  rw [named]
  exact (follow_fillers here filling).mpr rfl

theorem isFolder_of_ensureFolder (ensured : tree.ensureFolder path = (.ok (), after)) :
    after.isFolder path = true := by
  unfold ensureFolder at ensured
  split at ensured
  · cases ensured
    exact isFolder_of_makeFolder ‹_›
  · split at ensured
    · cases ensured
      assumption
    · cases ensured

/-- Folders that could be made are there. -/
theorem isFolder_of_createFoldersWithin {depth : Nat} (written : path.bytes.isEmpty = false)
    (created : createFoldersWithin depth tree path = (.ok (), after)) :
    after.isFolder path = true := by
  unfold createFoldersWithin at created
  rw [written, if_neg Bool.false_ne_true] at created
  split at created
  · cases created
    exact isFolder_of_makeFolder ‹_›
  · split at created
    · split at created
      · exact isFolder_of_ensureFolder created
      · rename_i failed
        exact absurd created (failed _)
    · cases created
  · split at created
    · cases created
      assumption
    · cases created

/-! ### What stands in the way -/

/-- No file stands in the way of the folders of a path. -/
structure Admits (tree : FileTree) (path : FilePath) : Prop where
  /-- The path starts in a folder. -/
  origin : tree.lookup? (path.origin tree.workingFolder) = some .folder
  /-- Where it goes through there is no file. -/
  free : ∀ {place}, path.Passes tree.workingFolder place → ¬ tree.HoldsFile place

theorem lookup?_cases (tree : FileTree) (place : Location) :
    tree.lookup? place = none ∨ tree.lookup? place = some .folder ∨ tree.HoldsFile place := by
  rcases found : tree.lookup? place with _ | ⟨content, executable⟩ | _
  · exact .inl rfl
  · exact .inr (.inr ⟨content, executable, found⟩)
  · exact .inr (.inl rfl)

/-- What stands somewhere is a folder or a file. -/
theorem isSome_lookup?_iff :
    (tree.lookup? place).isSome ↔ tree.lookup? place = some .folder ∨ tree.HoldsFile place := by
  rcases found : tree.lookup? place with _ | ⟨content, executable⟩ | _ <;> simp [HoldsFile, found]

theorem not_holdsFile (inFolder : tree.lookup? place = some .folder) : ¬ tree.HoldsFile place := by
  rintro ⟨content, executable, found⟩
  cases found.symm.trans inFolder

/-- Without a file in the way, segments that cannot be followed lead to nothing. -/
theorem follow_of_free {segments : List Bytes} (down : [dot, dot] ∉ segments)
    (narrow : ∀ segment ∈ segments, segment.length ≤ longestName)
    (inFolder : tree.lookup? place = some .folder)
    (free : ∀ {other}, place <:+ other → other <:+ segments.foldl lead place →
      ¬ tree.HoldsFile other) :
    tree.follow place segments = .ok (segments.foldl lead place) ∨
      tree.follow place segments = .error .notFound := by
  induction segments generalizing place with
  | nil => exact .inl rfl
  | cons segment rest ih =>
    obtain ⟨short, others⟩ := List.forall_mem_cons.mp narrow
    rw [List.mem_cons, not_or] at down
    have first := suffix_lead (Ne.symm down.1) place
    have entered : tree.follow place (segment :: rest) = tree.follow (lead place segment) rest := by
      rw [follow, List.foldlM_cons, enter_folder inFolder, if_pos short]
      rfl
    rw [entered]
    rcases tree.lookup?_cases (lead place segment) with missing | isFolder | holds
    · -- What is missing ends the way, unless nothing is to be followed any more.
      cases rest with
      | nil => exact .inl rfl
      | cons second more =>
        refine .inr ?_
        rw [follow, List.foldlM_cons, enter, missing]
        rfl
    · exact ih down.2 others isFolder fun below => free (first.trans below)
    · exact absurd holds (free first (suffix_foldl_lead down.2 _))

theorem written_join (named : IsName name) : (folder.join ⟨name⟩).bytes.isEmpty = false := by
  obtain ⟨front, bytes⟩ := join_bytes folder
  rw [bytes named.unslashed]
  simp [named.ne_nil]

section Joined

variable (descends : folder.Descends) (named : IsName name)

include descends named

/-- In a folder, another one can be made or is there, if no file has its place. -/
theorem makeFolder_of_folder (sound : (folder.join ⟨name⟩).IsSound)
    (inFolder : tree.lookup? (folder.placeFrom tree.workingFolder) = some .folder)
    (free : ¬ tree.HoldsFile ((folder.join ⟨name⟩).placeFrom tree.workingFolder)) :
    (∃ after, tree.makeFolder (folder.join ⟨name⟩) = .ok after) ∨
      tree.makeFolder (folder.join ⟨name⟩) = .error .alreadyExists ∧
        tree.isFolder (folder.join ⟨name⟩) = true := by
  have reached := (reaches_iff descends named).mpr ⟨sound, rfl, inFolder⟩
  rcases tree.lookup?_cases ((folder.join ⟨name⟩).placeFrom tree.workingFolder) with
    missing | stands | holds
  · refine .inl ?_
    have given : tree.slot? (folder.join ⟨name⟩) = .ok (some ⟨_, name, inFolder⟩) :=
      (slot?_join_iff named).mpr ⟨reached, rfl⟩
    rw [placeFrom_join named] at missing
    rcases makeFolder_of_slot given with ⟨-, made⟩ | ⟨taken, -⟩
    · exact made
    · exact absurd missing taken
  · have there := (isFolder_join_iff descends named).mpr ⟨sound, stands⟩
    exact .inr ⟨makeFolder_of_isFolder there, there⟩
  · exact absurd holds free

/-- Without a file in the way, a folder that cannot be made lies in one that is missing. -/
theorem makeFolder_of_missing (sound : (folder.join ⟨name⟩).IsSound)
    (admits : tree.Admits (folder.join ⟨name⟩))
    (missing : tree.lookup? (folder.placeFrom tree.workingFolder) ≠ some .folder) :
    tree.makeFolder (folder.join ⟨name⟩) = .error .notFound := by
  have origin := @origin_join folder name named.unslashed tree.workingFolder
  have started : tree.start (folder.join ⟨name⟩) = .ok (folder.origin tree.workingFolder) :=
    start_eq_ok_iff.mpr ⟨sound.usable, origin⟩
  have inFolder := admits.origin
  rw [origin] at inFolder
  have free {other : Location} (below : folder.origin tree.workingFolder <:+ other)
      (above : other <:+ folder.placeFrom tree.workingFolder) : ¬ tree.HoldsFile other := by
    by_cases start : other = folder.origin tree.workingFolder
    · exact not_holdsFile (start ▸ inFolder)
    · refine admits.free ⟨origin ▸ below, origin ▸ start, ?_⟩
      rw [placeFrom_join named]
      exact above.trans (List.suffix_cons _ _)
  rw [placeFrom_eq_inside] at free missing
  have slotless : tree.slot? (folder.join ⟨name⟩) = .error .notFound := by
    rw [slot?, started]
    simp only [bind, Except.bind, steps_join named, List.dropLast_concat]
    rcases follow_of_free descends.inside ((isSound_join_iff named).mp sound).2.1 inFolder free with
      followed | lost
    · rw [followed]
      dsimp only
      split
      · rfl
      · rename_i content executable found
        exact absurd ⟨content, executable, found⟩
          (free (suffix_foldl_lead descends.inside _) (List.suffix_refl _))
      · rename_i found
        exact absurd found missing
    · rw [lost]
  rw [makeFolder, slotless]
  rfl

theorem createFoldersWithin_of_folder (sound : (folder.join ⟨name⟩).IsSound)
    (inFolder : tree.lookup? (folder.placeFrom tree.workingFolder) = some .folder)
    (free : ¬ tree.HoldsFile ((folder.join ⟨name⟩).placeFrom tree.workingFolder)) (depth : Nat) :
    ∃ made, createFoldersWithin depth tree (folder.join ⟨name⟩) = (.ok (), made) := by
  unfold createFoldersWithin
  rw [written_join named, if_neg Bool.false_ne_true]
  rcases makeFolder_of_folder descends named sound inFolder free with ⟨after, made⟩ | ⟨old, there⟩
  · rw [made]
    exact ⟨after, rfl⟩
  · rw [old]
    simp only [there, if_true]
    exact ⟨tree, rfl⟩

theorem ensureFolder_of_folder (sound : (folder.join ⟨name⟩).IsSound)
    (inFolder : tree.lookup? (folder.placeFrom tree.workingFolder) = some .folder)
    (free : ¬ tree.HoldsFile ((folder.join ⟨name⟩).placeFrom tree.workingFolder)) :
    ∃ made, tree.ensureFolder (folder.join ⟨name⟩) = (.ok (), made) := by
  unfold ensureFolder
  rcases makeFolder_of_folder descends named sound inFolder free with ⟨after, made⟩ | ⟨old, there⟩
  · rw [made]
    exact ⟨after, rfl⟩
  · rw [old]
    simp only [there, if_true]
    exact ⟨tree, rfl⟩

/-- The end of the path of a name is where the path goes through last. -/
theorem passes_join (base : Location) :
    (folder.join ⟨name⟩).Passes base ((folder.join ⟨name⟩).placeFrom base) := by
  have below := descends.origin_suffix base
  rw [← @origin_join folder name named.unslashed] at below
  have place := @placeFrom_join folder name named base
  refine ⟨place ▸ below.trans (List.suffix_cons _ _), fun same => ?_, List.suffix_refl _⟩
  have length := below.length_le
  rw [← same, place, List.length_cons] at length
  omega

end Joined

/-- What is made on the way to a path is sound and admitted if the path is. -/
theorem parent_of_admits {above : FilePath} {last : Bytes} (named : IsName name)
    (namedLast : IsName last) (parent : parentOf folder.inside = above.join ⟨last⟩)
    (sound : (folder.join ⟨name⟩).IsSound) (admits : tree.Admits (folder.join ⟨name⟩)) :
    (above.join ⟨last⟩).IsSound ∧ tree.Admits (above.join ⟨last⟩) ∧
      (above.join ⟨last⟩).placeFrom tree.workingFolder = folder.placeFrom tree.workingFolder := by
  have written := @written_join above last namedLast
  have narrow := ((isSound_join_iff named).mp sound).2.1
  have unslashed := unslashed_inside folder
  rw [← parent] at written ⊢
  cases inside : folder.inside with
  | nil =>
    rw [inside] at written
    cases written
  | cons first others =>
    obtain ⟨origin, place⟩ := leads_parentOf inside tree.workingFolder
    rw [inside] at unslashed narrow origin place
    rw [← @origin_join folder name named.unslashed] at origin
    obtain ⟨beginning, some⟩ := parentOf_prefix folder name inside named.unslashed
    refine ⟨⟨⟨?_, some, ?_⟩, fun segment member => ?_⟩, ⟨origin ▸ admits.origin, ?_⟩, place⟩
    · exact fun member => sound.usable.unbroken (beginning.subset member)
    · exact Nat.le_trans beginning.length_le sound.usable.short
    · rcases mem_parentOf unslashed member with inPath | empty
      · exact narrow segment inPath
      · rw [empty]
        exact Nat.zero_le _
    · intro other passes
      refine admits.free ⟨origin ▸ passes.below, origin ▸ passes.proper, ?_⟩
      rw [placeFrom_join named]
      exact (place ▸ passes.above).trans (List.suffix_cons _ _)

/-- Without a file in the way, the folders of a path can be made, the highest one that is missing
first. -/
theorem createFoldersWithin_of_admits (depth : Nat) :
    ∀ {tree : FileTree} {folder : FilePath} {name : Bytes}, folder.Descends → IsName name →
      folder.inside.length ≤ depth → (folder.join ⟨name⟩).IsSound →
      tree.Admits (folder.join ⟨name⟩) →
      ∃ made, createFoldersWithin depth tree (folder.join ⟨name⟩) = (.ok (), made) := by
  induction depth with
  | zero =>
    intro tree folder name descends named deep sound admits
    have start : folder.placeFrom tree.workingFolder = folder.origin tree.workingFolder := by
      rw [placeFrom_eq_inside, List.length_eq_zero_iff.mp (Nat.le_zero.mp deep)]
      rfl
    refine createFoldersWithin_of_folder descends named sound ?_ (admits.free
      (passes_join descends named _)) 0
    rw [start, ← @origin_join folder name named.unslashed]
    exact admits.origin
  | succ depth ih =>
    intro tree folder name descends named deep sound admits
    have free := admits.free (passes_join descends named _)
    by_cases inFolder : tree.lookup? (folder.placeFrom tree.workingFolder) = some .folder
    · exact createFoldersWithin_of_folder descends named sound inFolder free _
    · -- The folder is missing, so it does not lie at the start, and is a name in a folder again.
      have elsewhere : folder.placeFrom tree.workingFolder ≠ folder.origin tree.workingFolder := by
        intro same
        rw [same, ← @origin_join folder name named.unslashed] at inFolder
        exact inFolder admits.origin
      obtain ⟨above, last, down, namedLast, parent, shorter⟩ :=
        exists_join_of_parentOf descends elsewhere
      obtain ⟨soundAbove, admitsAbove, place⟩ :=
        parent_of_admits named namedLast parent sound admits
      obtain ⟨made, created⟩ := ih down namedLast (by omega) soundAbove admitsAbove
      have only := createFoldersWithin_onlyWrites depth tree (above.join ⟨last⟩)
      have there := isFolder_of_createFoldersWithin (written_join namedLast) created
      rw [created] at only
      have inMade := ((isFolder_join_iff down namedLast).mp there).2
      rw [only.workingFolder, place, ← only.workingFolder] at inMade
      obtain ⟨after, ensured⟩ := ensureFolder_of_folder descends named sound inMade (by
        rintro ⟨content, executable, found⟩
        rw [only.workingFolder] at found
        exact free ⟨content, executable, (only.file List.not_mem_nil).mp found⟩)
      unfold createFoldersWithin
      rw [written_join named, if_neg Bool.false_ne_true,
        makeFolder_of_missing descends named sound admits inFolder, parent?_join named, parent]
      simp only [created, ensured]
      exact ⟨after, rfl⟩

/-- **The folders of a path can be made just if no file stands in the way**, whichever of them exist
already. -/
theorem createFolders_join_iff (descends : folder.Descends) (named : IsName name) :
    (∃ made, tree.createFolders (folder.join ⟨name⟩) = (.ok (), made)) ↔
      (folder.join ⟨name⟩).IsSound ∧ tree.Admits (folder.join ⟨name⟩) := by
  constructor
  · rintro ⟨made, created⟩
    have there := isFolder_of_createFoldersWithin (written_join named) created
    have only := createFolders_onlyWrites tree (folder.join ⟨name⟩)
    have makes := createFolders_onlyMakes tree (folder.join ⟨name⟩)
    rw [created] at only makes
    obtain ⟨sound, ending⟩ := (isFolder_join_iff descends named).mp there
    rw [only.workingFolder] at ending
    refine ⟨sound, ?_, fun passes holds => ?_⟩
    · have start := folder_of_folder ((descends.join named).origin_suffix _) ending
      exact (makes _ start).resolve_right fun enters =>
        (enters.passes (descends.join named)).proper rfl
    · obtain ⟨content, executable, found⟩ := holds
      exact not_holdsFile (folder_of_folder passes.above ending)
        ⟨content, executable, (only.file List.not_mem_nil).mpr found⟩
  · rintro ⟨sound, admits⟩
    refine createFoldersWithin_of_admits _ descends named ?_ sound admits
    have fewer := length_segments_le (folder.join ⟨name⟩)
    rw [segments_join named.unslashed, List.length_append, List.length_singleton] at fewer
    omega

/-! ### The folder of a file -/

/-- **What is made for the folder of a file are folders that its path enters.** -/
theorem createParent_onlyMakes (named : IsName name) (tree : FileTree) :
    OnlyMakes (folder.Enters tree.workingFolder) tree
      (tree.createParent (folder.join ⟨name⟩)).2 := by
  rw [createParent, parent?_join named]
  exact (createFolders_onlyMakes tree _).mono fun place enters => enters.of_folder

section Parent

variable {base : Location} (descends : folder.Descends)
  (elsewhere : folder.placeFrom base ≠ folder.origin base)

include elsewhere in
theorem passes_parentOf :
    (parentOf folder.inside).Passes base place ↔ folder.Passes base place := by
  cases inside : folder.inside with
  | nil =>
    rw [placeFrom_eq_inside, inside] at elsewhere
    exact absurd rfl elsewhere
  | cons first others =>
    obtain ⟨origin, ending⟩ := leads_parentOf inside base
    rw [inside] at origin ending
    constructor
    · exact fun passes => ⟨origin ▸ passes.below, origin ▸ passes.proper, ending ▸ passes.above⟩
    · rintro ⟨below, proper, above⟩
      rw [← origin] at below proper
      exact ⟨below, proper, ending ▸ above⟩

include descends elsewhere

/-- **The folder of a file can be made just if nothing stands in the way**, and is a folder then. -/
theorem createFolders_parentOf_iff (start : tree.workingFolder = base) :
    ((∃ made, tree.createFolders (parentOf folder.inside) = (.ok (), made)) ↔
        (parentOf folder.inside).IsSound ∧ tree.Admits (parentOf folder.inside)) ∧
      ∀ {made}, tree.createFolders (parentOf folder.inside) = (.ok (), made) →
        made.lookup? (folder.placeFrom made.workingFolder) = some .folder := by
  obtain ⟨above, last, down, named, parent, -⟩ := exists_join_of_parentOf descends elsewhere
  have ending : (above.join ⟨last⟩).placeFrom base = folder.placeFrom base := by
    cases inside : folder.inside with
    | nil =>
      rw [placeFrom_eq_inside, inside] at elsewhere
      exact absurd rfl elsewhere
    | cons first others => exact parent ▸ (leads_parentOf inside base).2
  rw [parent]
  refine ⟨createFolders_join_iff down named, fun {made} created => ?_⟩
  have there := isFolder_of_createFoldersWithin (written_join named) created
  have only := createFolders_onlyWrites tree (above.join ⟨last⟩)
  rw [created] at only
  rw [only.workingFolder, start, ← ending, ← start, ← only.workingFolder]
  exact ((isFolder_join_iff down named).mp there).2

end Parent

end FileTree

end ApkFeatures
