/-
**What a copy holds.**

The target of a copy is emptied before the source is read, so a file that is copied to its own place
is lost. Elsewhere the copy holds what the source holds, and the source still does.

* `hasContent_iff`, `hasContent_iff_read` — files with some content.
* `putFile_onlyWrites`, `putFile_of_putFile` — putting a file changes no other, and needs folders only.
* `copy_eq_ok`, `copy_of_putFile`, `copyInto_eq_ok` — what is done for a copy.
* `copyInto_frame`, `copyInto_onlyWrites` — nothing else is done, even if it fails half-way.
* `read_of_copyInto` — what is read of a copy is what was read of the source.
-/
import ApkFeatures.Proofs.Footprint

namespace ApkFeatures.FileTree

open FilePath

variable {tree other after : FileTree} {place : Location} {path source target : FilePath} {content : Bytes}

/-! ### Files with content -/

theorem hasContent_iff_read :
    tree.hasContent path = true ↔ ∃ content, tree.read path = .ok content ∧ content ≠ [] := by
  rw [hasContent]
  cases tree.read path with
  | error fault => simp
  | ok content => simp

/-- **A file has content if it is a file and not empty.** -/
theorem hasContent_iff : tree.hasContent path = true ↔
    ∃ place content executable,
      tree.find? path = .ok (place, .file content executable) ∧ content ≠ [] := by
  simp only [hasContent_iff_read, read_eq_ok_iff]
  constructor
  · rintro ⟨content, ⟨place, executable, found⟩, filled⟩
    exact ⟨place, content, executable, found, filled⟩
  · rintro ⟨place, content, executable, found, filled⟩
    exact ⟨content, ⟨place, executable, found⟩, filled⟩

/-! ### Putting and copying -/

theorem unslashed_of_putFile {executable? : Option Bool}
    (put : tree.putFile path content executable? = .ok after) : isSlashed path = false := by
  obtain ⟨found, -, rest⟩ := Fallible.bind_eq_ok_iff.mp put
  cases found with
  | none => cases rest
  | some slot =>
    dsimp only at rest
    split at rest
    · cases rest
    · rename_i unslashed
      exact Bool.not_eq_true _ ▸ unslashed

/-- **Putting a file changes no other.** -/
theorem putFile_onlyWrites {executable? : Option Bool}
    (put : tree.putFile path content executable? = .ok after) :
    OnlyWrites [path.placeFrom tree.workingFolder] tree after := by
  obtain ⟨slot, given, notFolder, based, executable, lookup⟩ := putFile_eq_ok put
  obtain ⟨here, -⟩ := slot_place given
  refine ⟨based, fun {place} inFolder => ?_, fun {place} outside _ _ => ?_⟩
  · have elsewhere : place ≠ slot.place := fun same => notFolder (same ▸ inFolder)
    rw [lookup, if_neg elsewhere]
    exact inFolder
  · rw [← here, List.mem_singleton] at outside
    rw [lookup, if_neg outside]

/-- **Whether a file can be put depends on folders only**: if one could be put, another one can be
where there are the same folders and none at its place. -/
theorem putFile_of_putFile {executable? : Option Bool}
    (put : tree.putFile path content executable? = .ok after)
    (start : other.workingFolder = tree.workingFolder)
    (folders : ∀ {place}, tree.lookup? place = some .folder → other.lookup? place = some .folder)
    (free : other.lookup? (path.placeFrom tree.workingFolder) ≠ some .folder) (more : Bytes)
    (flag? : Option Bool) : ∃ again, other.putFile path more flag? = .ok again := by
  obtain ⟨slot, given, -⟩ := putFile_eq_ok put
  obtain ⟨here, -⟩ := slot_place given
  obtain ⟨usable, followed, rest⟩ := slot?_eq_some_iff.mp given
  have again : other.slot? path = .ok (some ⟨slot.folder, slot.name, folders slot.inFolder⟩) :=
    slot?_eq_some_iff.mpr ⟨usable, start ▸ follow_of_folders folders followed, rest⟩
  exact putFile_of_slot again (unslashed_of_putFile put) (here ▸ free) more flag?

/-- A copy is made of a file: its target is emptied, and then what can be read is written. -/
theorem copy_eq_ok (copied : tree.copy source target = (.ok (), after)) :
    ∃ place old executable emptied content, tree.find? source = .ok (place, .file old executable) ∧
      tree.putFile target [] (some executable) = .ok emptied ∧
      emptied.read source = .ok content ∧ emptied.write target content = .ok after := by
  unfold copy at copied
  split at copied
  · cases copied
  · cases copied
  · rename_i place old executable found
    split at copied
    · cases copied
    · rename_i emptied put
      split at copied
      · cases copied
      · rename_i filled writing
        obtain ⟨content, given, written⟩ := Fallible.bind_eq_ok_iff.mp writing
        cases copied
        exact ⟨place, old, executable, emptied, content, found, put, given, written⟩

/-- A file can be copied if its target can be put, at a different place. -/
theorem copy_of_putFile {executable : Bool} {emptied : FileTree}
    (apart : source.placeFrom tree.workingFolder ≠ target.placeFrom tree.workingFolder)
    (found : tree.find? source = .ok (place, .file content executable))
    (put : tree.putFile target [] (some executable) = .ok emptied) :
    ∃ after, tree.copy source target = (.ok (), after) := by
  have only := putFile_onlyWrites put
  have still := only.read (by simpa using apart) (read_eq_ok_iff.mpr ⟨place, executable, found⟩)
  obtain ⟨slot, given, -, -, flag, lookup⟩ := putFile_eq_ok put
  obtain ⟨after, written⟩ : ∃ after, emptied.write target content = .ok after := by
    refine putFile_of_putFile put only.workingFolder only.folder ?_ content none
    rw [← (slot_place given).1, lookup, if_pos rfl]
    simp
  refine ⟨after, ?_⟩
  rw [copy, found]
  dsimp only
  rw [put]
  dsimp only
  rw [still]
  simp only [bind, Except.bind, written]

theorem copyInto_eq_ok (copied : tree.copyInto source target = (.ok (), after)) :
    ∃ made, tree.createParent target = (.ok (), made) ∧ made.copy source target = (.ok (), after) := by
  unfold copyInto at copied
  split at copied
  · rename_i made created
    exact ⟨made, created, copied⟩
  · rename_i failed
    exact absurd copied (failed after)

section Frame

variable {relation : FileTree → FileTree → Prop} [IsFrame relation]
  (puts : ∀ {tree after : FileTree} {content : Bytes} {executable? : Option Bool},
    tree.putFile target content executable? = .ok after → relation tree after)

include puts

theorem copy_frame (tree : FileTree) (source : FilePath) :
    relation tree (tree.copy source target).2 := by
  unfold copy
  split
  · exact IsFrame.refl tree
  · exact IsFrame.refl tree
  · split
    · exact IsFrame.refl tree
    · rename_i emptied put
      split
      · exact puts put
      · rename_i copied filled
        obtain ⟨content, -, written⟩ := Fallible.bind_eq_ok_iff.mp filled
        exact IsFrame.trans (puts put) (puts written)

/-- **A copy keeps what is kept when its folder is made and when its target is put**, even if it fails
half-way. -/
theorem copyInto_frame (parent : ∀ tree : FileTree, relation tree (tree.createParent target).2)
    (tree : FileTree) (source : FilePath) : relation tree (tree.copyInto source target).2 := by
  have above := parent tree
  unfold copyInto
  split
  · rename_i made created
    rw [created] at above
    exact IsFrame.trans above (copy_frame puts made source)
  · exact above

end Frame

/-- **A copy writes its target only**, and may make folders. -/
theorem copyInto_onlyWrites (tree : FileTree) (source target : FilePath) :
    OnlyWrites [target.placeFrom tree.workingFolder] tree (tree.copyInto source target).2 :=
  @copyInto_frame target
    (Writing tree.workingFolder [target.placeFrom tree.workingFolder]) _
    (fun put started => started ▸ putFile_onlyWrites put)
    (fun tree _ => (createParent_onlyWrites tree target).mono (List.nil_subset _)) tree source rfl

/-- **A copy holds what its source held**, if they have different places. -/
theorem read_of_copy (apart : source.placeFrom tree.workingFolder ≠
      target.placeFrom tree.workingFolder)
    (had : tree.read source = .ok content) (copied : tree.copy source target = (.ok (), after)) :
    after.read target = .ok content := by
  obtain ⟨-, -, executable, emptied, found, -, put, given, written⟩ := copy_eq_ok copied
  have still := (putFile_onlyWrites put).read (by simpa using apart) had
  obtain rfl : found = content := Except.ok.inj (given.symm.trans still)
  exact read_of_write written

theorem read_of_copyInto (apart : source.placeFrom tree.workingFolder ≠
      target.placeFrom tree.workingFolder)
    (had : tree.read source = .ok content)
    (copied : tree.copyInto source target = (.ok (), after)) : after.read target = .ok content := by
  obtain ⟨made, created, copied⟩ := copyInto_eq_ok copied
  have only := createParent_onlyWrites tree target
  rw [created] at only
  rw [← only.workingFolder] at apart
  exact read_of_copy apart (only.read List.not_mem_nil had) copied

end ApkFeatures.FileTree
