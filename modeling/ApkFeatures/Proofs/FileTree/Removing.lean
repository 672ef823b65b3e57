/-
**What is removed.**

Nothing outside of a folder is removed with it, even if its removal fails half-way. If it succeeds,
nothing is left at the place of the folder or in it, and everything else is found where it was.

* `removeFolder_outside` — nothing outside of a folder is removed.
* `removeFolder_eq_ok`, `removeFile_eq_ok` — what is found after a removal.
-/
import ApkFeatures.Proofs.FileTree.Folders

namespace ApkFeatures.FileTree

open FilePath

variable {tree after : FileTree} {path : FilePath} {place : Location}

/-- An empty folder that could be removed had a name in a folder. -/
theorem removeEmptyFolder_eq_ok (removed : tree.removeEmptyFolder path = .ok after) :
    ∃ slot : Slot tree, slot.place = path.placeFrom tree.workingFolder ∧
      after = tree.erase slot.place := by
  obtain ⟨given?, given, erased⟩ := Fallible.bind_eq_ok_iff.mp removed
  cases given? with
  | none =>
    dsimp only at erased
    split at erased <;> cases erased
  | some slot =>
    cases erased
    exact ⟨slot, (slot_place given).1, rfl⟩

/-- **Nothing outside of a folder is removed with it**, whether it can be removed or not. -/
theorem removeFolder_outside (tree : FileTree) (path : FilePath) :
    (tree.removeFolder path).2.workingFolder = tree.workingFolder ∧
      ∀ place, ¬ path.placeFrom tree.workingFolder <:+ place →
        (tree.removeFolder path).2.lookup? place = tree.lookup? place := by
  unfold removeFolder
  split
  · exact ⟨rfl, fun _ _ => rfl⟩
  · exact ⟨rfl, fun _ _ => rfl⟩
  · rename_i here found
    have same := locate_place (find?_eq_ok_iff.mp found).1
    have cleared : ∀ place, ¬ path.placeFrom tree.workingFolder <:+ place →
        (tree.clear here).lookup? place = tree.lookup? place := fun place outside => by
      rw [lookup?_clear, if_pos (.inr (.inl (same ▸ outside)))]
    split
    · exact ⟨rfl, cleared⟩
    · rename_i removed emptied
      obtain ⟨slot, last, rfl⟩ := removeEmptyFolder_eq_ok emptied
      refine ⟨rfl, fun place outside => ?_⟩
      rw [lookup?_erase, last, if_pos (.inl outside), cleared place outside]

/-- **After a folder has been removed, nothing is found in it**, and everything else where it was. -/
theorem removeFolder_eq_ok (removed : tree.removeFolder path = (.ok (), after)) :
    after.workingFolder = tree.workingFolder ∧ ∀ place, after.lookup? place =
      if path.placeFrom tree.workingFolder <:+ place then none else tree.lookup? place := by
  have outside := removeFolder_outside tree path
  rw [removed] at outside
  refine ⟨outside.1, fun place => ?_⟩
  split
  · rename_i within
    unfold removeFolder at removed
    split at removed
    · cases removed
    · cases removed
    · split at removed
      · cases removed
      · rename_i here found _ emptied
        cases removed
        obtain ⟨slot, last, rfl⟩ := removeEmptyFolder_eq_ok emptied
        have below : slot.place <:+ place := last ▸ within
        rw [lookup?_erase, if_neg]
        rintro (outside | root)
        · exact outside below
        · rw [root] at below
          cases List.suffix_nil.mp below
  · rename_i apart
    exact outside.2 place apart

/-- Nothing lies in a file. -/
theorem lookup?_of_holdsFile {other : Location} (holds : tree.HoldsFile place)
    (below : place <:+ other) (different : other ≠ place) : tree.lookup? other = none := by
  cases found : tree.lookup? other with
  | none => rfl
  | some entry =>
    exact absurd holds (not_holdsFile (folder_of_suffix below (Ne.symm different) found))

/-- **After a file has been removed, nothing is found at its place**, and everything else where it
was. -/
theorem removeFile_eq_ok (removed : tree.removeFile path = .ok after) :
    after.workingFolder = tree.workingFolder ∧ ∀ place, after.lookup? place =
      if place = path.placeFrom tree.workingFolder then none else tree.lookup? place := by
  obtain ⟨⟨here, entry⟩, found, erased⟩ := Fallible.bind_eq_ok_iff.mp removed
  cases entry with
  | folder => cases erased
  | file content executable =>
    cases erased
    obtain ⟨located, there⟩ := find?_eq_ok_iff.mp found
    obtain rfl := locate_place located
    refine ⟨rfl, fun place => ?_⟩
    rw [lookup?_erase]
    by_cases same : place = path.placeFrom tree.workingFolder
    · subst same
      rw [if_pos rfl, if_neg]
      rintro (outside | root)
      · exact outside (List.suffix_refl _)
      · rw [root] at there
        cases there
    · rw [if_neg same]
      by_cases below : path.placeFrom tree.workingFolder <:+ place
      · have nothing := lookup?_of_holdsFile ⟨content, executable, there⟩ below same
        rw [nothing, ite_self]
      · rw [if_pos (.inl below)]

end ApkFeatures.FileTree
