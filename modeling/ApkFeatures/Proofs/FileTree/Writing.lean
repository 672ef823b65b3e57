/-
**What writing leaves alone.**

Writing a file and making folders keeps every folder, and every file but the one that is written.
So whatever a path led to before it leads to afterwards, and what was read there is read again.

* `OnlyWrites` — how two trees differ if only some files are written between them.
* `OnlyWrites.trans`, `OnlyWrites.mono` — several writings after each other.
* `OnlyWrites.read` — what is read before and after.
* `createFolders_onlyWrites`, `write_join_onlyWrites` — making folders, and writing one file.
* `read_of_write_join` — what is written is read.
* `exists_join_of_write` — whatever is written is a name in a folder.
* `write_join_of_reaches`, `createParent_join` — a file can be written wherever no folder stands.
* `write_join_of_isFolder` — and nowhere else.
-/
import ApkFeatures.Proofs.FileTree.Resolve

namespace ApkFeatures.FileTree

open FilePath

/-- Only files at some locations are written between two trees, and perhaps folders are made. -/
structure OnlyWrites (files : List Location) (before after : FileTree) : Prop where
  /-- Relative paths start where they did. -/
  workingFolder : after.workingFolder = before.workingFolder
  /-- A folder stays one. -/
  folder : ∀ {place}, before.lookup? place = some .folder → after.lookup? place = some .folder
  /-- No other file is made, changed or removed. -/
  file : ∀ {place}, place ∉ files → ∀ {content executable},
    after.lookup? place = some (.file content executable) ↔
      before.lookup? place = some (.file content executable)

namespace OnlyWrites

variable {files more : List Location} {before between after : FileTree}

theorem refl (files : List Location) (tree : FileTree) : OnlyWrites files tree tree :=
  ⟨rfl, id, fun _ => Iff.rfl⟩

theorem mono (only : OnlyWrites files before after) (within : files ⊆ more) :
    OnlyWrites more before after :=
  ⟨only.workingFolder, only.folder, fun outside => only.file fun member => outside (within member)⟩

theorem trans (first : OnlyWrites files before between) (second : OnlyWrites files between after) :
    OnlyWrites files before after where
  workingFolder := second.workingFolder.trans first.workingFolder
  folder := fun found => second.folder (first.folder found)
  file := fun outside => (second.file outside).trans (first.file outside)

variable {place next : Location} {path folder : FilePath} {name content : Bytes}

/-! ### What stays -/

theorem follow {segments : List Bytes} (only : OnlyWrites files before after)
    (followed : before.follow place segments = .ok next) :
    after.follow place segments = .ok next := follow_of_folders only.folder followed

theorem opens (only : OnlyWrites files before after) (opened : before.Opens folder place) :
    after.Opens folder place where
  followed := by
    rw [only.workingFolder]
    exact only.follow opened.followed
  inFolder := only.folder opened.inFolder

theorem reaches (only : OnlyWrites files before after)
    (reached : before.Reaches folder name place) : after.Reaches folder name place :=
  ⟨reached.usable, only.opens reached.opens, reached.short⟩

theorem locate (only : OnlyWrites files before after) (located : before.locate path = .ok place) :
    after.locate path = .ok place := by
  obtain ⟨usable, followed⟩ := locate_eq_ok_iff.mp located
  rw [← only.workingFolder] at followed
  exact locate_eq_ok_iff.mpr ⟨usable, only.follow followed⟩

/-- **What was read is read again**, unless it has been written. -/
theorem read (only : OnlyWrites files before after)
    (outside : path.placeFrom before.workingFolder ∉ files)
    (given : before.read path = .ok content) : after.read path = .ok content := by
  obtain ⟨place, executable, found⟩ := read_eq_ok_iff.mp given
  obtain ⟨located, there⟩ := find?_eq_ok_iff.mp found
  rw [← locate_place located] at outside
  exact read_eq_ok_iff.mpr ⟨place, executable,
    find?_eq_ok_iff.mpr ⟨only.locate located, (only.file outside).mpr there⟩⟩

theorem readText {text : String} (only : OnlyWrites files before after)
    (outside : path.placeFrom before.workingFolder ∉ files)
    (given : before.readText path = .ok text) : after.readText path = .ok text :=
  readText_eq_ok_iff.mpr (only.read outside (readText_eq_ok_iff.mp given))

theorem isFolder (only : OnlyWrites files before after) (found : before.isFolder path = true) :
    after.isFolder path = true := by
  obtain ⟨place, there⟩ := isFolder_iff.mp found
  obtain ⟨located, entry⟩ := find?_eq_ok_iff.mp there
  exact isFolder_iff.mpr ⟨place, find?_eq_ok_iff.mpr ⟨only.locate located, only.folder entry⟩⟩

end OnlyWrites

variable {tree after : FileTree} {folder path : FilePath} {name content : Bytes}

/-! ### Making folders -/

theorem makeFolder_onlyWrites (made : tree.makeFolder path = .ok after) :
    OnlyWrites [] tree after := by
  obtain ⟨found, given, rest⟩ := Fallible.bind_eq_ok_iff.mp made
  cases found with
  | none => cases rest
  | some slot =>
    dsimp only at rest
    split at rest
    · cases rest
    · rename_i free
      cases rest
      refine ⟨rfl, fun {place} inFolder => ?_, fun {place} _ content executable => ?_⟩
      · rw [lookup?_put]
        split
        · rfl
        · exact inFolder
      · rw [lookup?_put]
        split
        · rename_i same
          rw [same, show slot.name :: slot.folder = slot.place from rfl, free]
          simp
        · exact Iff.rfl

theorem ensureFolder_onlyWrites (tree : FileTree) (path : FilePath) :
    OnlyWrites [] tree (tree.ensureFolder path).2 := by
  rw [ensureFolder]
  cases made : tree.makeFolder path with
  | ok after => exact makeFolder_onlyWrites made
  | error fault => exact .refl [] tree

/-- Making a folder and those above it writes no file, even if it fails half-way. -/
theorem createFoldersWithin_onlyWrites (depth : Nat) :
    ∀ tree path, OnlyWrites [] tree (createFoldersWithin depth tree path).2 := by
  induction depth with
  | zero =>
    intro tree path
    unfold createFoldersWithin
    split
    · exact .refl [] tree
    · split
      · exact makeFolder_onlyWrites ‹_›
      · exact .refl [] tree
      · exact .refl [] tree
  | succ depth ih =>
    intro tree path
    unfold createFoldersWithin
    split
    · exact .refl [] tree
    · split
      · exact makeFolder_onlyWrites ‹_›
      · split
        · rename_i parent below _
          cases below
          have above := ih tree parent
          rcases made : createFoldersWithin depth tree parent with ⟨fault | done, reached⟩
          · rw [made] at above
            exact above
          · rw [made] at above
            exact above.trans (ensureFolder_onlyWrites reached path)
        · exact .refl [] tree
      · exact .refl [] tree

theorem createFolders_onlyWrites (tree : FileTree) (path : FilePath) :
    OnlyWrites [] tree (tree.createFolders path).2 :=
  createFoldersWithin_onlyWrites path.bytes.length tree path

theorem createParent_onlyWrites (tree : FileTree) (path : FilePath) :
    OnlyWrites [] tree (tree.createParent path).2 := by
  rw [createParent]
  cases path.parent? with
  | none => exact .refl [] tree
  | some parent => exact createFolders_onlyWrites tree parent

/-! ### Writing a file -/

/-- What is put as a file has a place where no folder stands, and changes nothing else. -/
theorem putFile_eq_ok {executable? : Option Bool}
    (written : tree.putFile path content executable? = .ok after) :
    ∃ slot : Slot tree, tree.slot? path = .ok (some slot) ∧
      tree.lookup? slot.place ≠ some .folder ∧ after.workingFolder = tree.workingFolder ∧
      ∃ executable, ∀ place, after.lookup? place =
        if place = slot.place then some (.file content executable) else tree.lookup? place := by
  obtain ⟨found, given, rest⟩ := Fallible.bind_eq_ok_iff.mp written
  cases found with
  | none => cases rest
  | some slot =>
    refine ⟨slot, given, ?_⟩
    dsimp only at rest
    split at rest
    · cases rest
    · split at rest
      · cases rest
      · rename_i old executable found
        cases rest
        exact ⟨by rw [found]; simp, rfl, _, fun place => lookup?_put ..⟩
      · rename_i free
        cases rest
        exact ⟨by rw [free]; simp, rfl, _, fun place => lookup?_put ..⟩

/-- A file can be put at a name in a folder, unless a folder stands there. -/
theorem putFile_of_slot {slot : Slot tree} (given : tree.slot? path = .ok (some slot))
    (unslashed : isSlashed path = false) (free : tree.lookup? slot.place ≠ some .folder)
    (content : Bytes) (executable? : Option Bool) :
    ∃ after, tree.putFile path content executable? = .ok after := by
  rw [putFile, given]
  simp only [bind, Except.bind, unslashed, Bool.false_eq_true, if_false]
  split
  · rename_i found
    exact absurd found free
  · exact ⟨_, rfl⟩
  · exact ⟨_, rfl⟩

section Joined

variable (named : IsName name)

include named

/-- **Writing a name in a folder writes that file only.** -/
theorem write_join_onlyWrites (written : tree.write (folder.join ⟨name⟩) content = .ok after) :
    OnlyWrites [(folder.join ⟨name⟩).placeFrom tree.workingFolder] tree after := by
  obtain ⟨slot, given, notFolder, based, executable, lookup⟩ := putFile_eq_ok written
  obtain ⟨reached, same⟩ := (slot?_join_iff named).mp given
  have place : (folder.join ⟨name⟩).placeFrom tree.workingFolder = slot.place := by
    rw [placeFrom_join named, ← reached.opens.place_eq, ← same]
    rfl
  refine ⟨based, fun {other} inFolder => ?_, fun {other} outside _ _ => ?_⟩
  · have elsewhere : other ≠ slot.place := fun same => notFolder (same ▸ inFolder)
    rw [lookup, if_neg elsewhere]
    exact inFolder
  · rw [place, List.mem_singleton] at outside
    rw [lookup, if_neg outside]

/-- **No file is written where a folder stands.** -/
theorem write_join_of_isFolder (stands : tree.isFolder (folder.join ⟨name⟩) = true)
    (content : Bytes) : ∃ fault, tree.write (folder.join ⟨name⟩) content = .error fault := by
  cases written : tree.write (folder.join ⟨name⟩) content with
  | error fault => exact ⟨fault, rfl⟩
  | ok after =>
    obtain ⟨slot, given, notFolder, -⟩ := putFile_eq_ok written
    obtain ⟨reached, same⟩ := (slot?_join_iff named).mp given
    obtain ⟨place, found⟩ := isFolder_iff.mp stands
    obtain ⟨located, inFolder⟩ := find?_eq_ok_iff.mp found
    refine absurd ?_ notFolder
    rw [← inFolder, locate_place located, placeFrom_join named, ← reached.opens.place_eq, ← same]
    rfl

/-- **What is written is read.** -/
theorem read_of_write_join (written : tree.write (folder.join ⟨name⟩) content = .ok after) :
    after.read (folder.join ⟨name⟩) = .ok content := by
  have only := write_join_onlyWrites named written
  obtain ⟨slot, given, notFolder, based, executable, lookup⟩ := putFile_eq_ok written
  obtain ⟨reached, same⟩ := (slot?_join_iff named).mp given
  refine read_eq_ok_iff.mpr ⟨slot.place, executable, find?_eq_ok_iff.mpr ⟨?_, ?_⟩⟩
  · exact (locate_join_iff named).mpr ⟨slot.folder, only.reaches reached, by rw [← same]; rfl⟩
  · rw [lookup, if_pos rfl]

/-- **A file can be written wherever no folder stands**, if the path leads there. -/
theorem write_join_of_reaches {place : Location} (reached : tree.Reaches folder name place)
    (free : tree.isFolder (folder.join ⟨name⟩) = false) (content : Bytes) :
    ∃ after, tree.write (folder.join ⟨name⟩) content = .ok after := by
  have given : tree.slot? (folder.join ⟨name⟩) = .ok (some ⟨place, name, reached.opens.inFolder⟩) :=
    (slot?_join_iff named).mpr ⟨reached, rfl⟩
  have notFolder : tree.lookup? (name :: place) ≠ some .folder := fun found => by
    have isFolder := isFolder_iff.mpr ⟨_, find?_eq_ok_iff.mpr
      ⟨(locate_join_iff named).mpr ⟨place, reached, rfl⟩, found⟩⟩
    rw [free] at isFolder
    cases isFolder
  exact putFile_of_slot given (isSlashed_join named) notFolder content none

end Joined

/-- **What can be written is a name in a folder.** -/
theorem exists_join_of_write (written : tree.write path content = .ok after) :
    ∃ (folder : FilePath) (name : Bytes), IsName name ∧ path = folder.join ⟨name⟩ := by
  obtain ⟨found, given, rest⟩ := Fallible.bind_eq_ok_iff.mp written
  cases found with
  | none => cases rest
  | some slot =>
    dsimp only at rest
    split at rest
    · cases rest
    · rename_i solid
      obtain ⟨usable, -, named, solidName, inner, -⟩ := slot?_eq_some_iff.mp given
      obtain ⟨folder, last, filled, unslashed, rfl⟩ :=
        exists_join usable.written (of_decide_eq_false (Bool.not_eq_true _ ▸ solid))
      have steps : steps (folder.join ⟨last⟩) = folder.inside ++ [last] := by
        rw [steps, segments_join unslashed, List.reverse_concat,
          List.dropWhile_cons_of_neg (mt List.isEmpty_iff.mp filled), List.reverse_cons,
          List.reverse_reverse]
      rw [steps, List.getLast?_concat] at named
      obtain rfl := Option.some.inj named
      exact ⟨folder, _, ⟨unslashed, solidName, of_decide_eq_false inner⟩, rfl⟩

theorem write_onlyWrites (written : tree.write path content = .ok after) :
    OnlyWrites [path.placeFrom tree.workingFolder] tree after := by
  obtain ⟨folder, name, named, rfl⟩ := exists_join_of_write written
  exact write_join_onlyWrites named written

theorem read_of_write (written : tree.write path content = .ok after) :
    after.read path = .ok content := by
  obtain ⟨folder, name, named, rfl⟩ := exists_join_of_write written
  exact read_of_write_join named written

/-- A file that has been written can be written again. -/
theorem write_again (written : tree.write path content = .ok after) (more : Bytes) :
    ∃ again, after.write path more = .ok again := by
  obtain ⟨folder, name, named, rfl⟩ := exists_join_of_write written
  obtain ⟨slot, given, -⟩ := putFile_eq_ok written
  have reached := ((slot?_join_iff named).mp given).1
  exact write_join_of_reaches named ((write_join_onlyWrites named written).reaches reached)
    (isFolder_of_read (read_of_write_join named written)) more

/-! ### Folders that exist -/

theorem foldl_lead_fillers {fillers : List Bytes} {place : Location}
    (filling : ∀ filler ∈ fillers, isFiller filler = true) : fillers.foldl lead place = place := by
  induction fillers with
  | nil => rfl
  | cons filler rest ih =>
    rw [List.foldl_cons, lead_filler (filling filler List.mem_cons_self)]
    exact ih fun later member => filling later (List.mem_cons_of_mem _ member)

/-- The slashes at the end of a path lead nowhere else. -/
theorem steps_append (path : FilePath) :
    ∃ slashes, path.segments = steps path ++ slashes ∧
      ∀ filler ∈ slashes, isFiller filler = true := by
  refine ⟨(path.segments.reverse.takeWhile List.isEmpty).reverse, ?_, fun filler member => ?_⟩
  · rw [steps, ← List.reverse_append, List.takeWhile_append_dropWhile, List.reverse_reverse]
  · have empty := List.all_eq_true.mp List.all_takeWhile filler (List.mem_reverse.mp member)
    rw [List.isEmpty_iff.mp empty]
    rfl

/-- A folder is made just if there is nothing of its name. -/
theorem makeFolder_of_slot {slot : Slot tree} (given : tree.slot? path = .ok (some slot)) :
    tree.lookup? slot.place = none ∧ (∃ made, tree.makeFolder path = .ok made) ∨
      tree.lookup? slot.place ≠ none ∧ tree.makeFolder path = .error .alreadyExists := by
  rw [makeFolder, given]
  simp only [bind, Except.bind]
  split
  · rename_i entry found
    exact .inr ⟨by rw [found]; simp, rfl⟩
  · rename_i free
    exact .inl ⟨free, _, rfl⟩

/-- No folder is made where there is one. -/
theorem makeFolder_of_isFolder (there : tree.isFolder path = true) :
    tree.makeFolder path = .error .alreadyExists := by
  obtain ⟨place, found⟩ := isFolder_iff.mp there
  obtain ⟨located, inFolder⟩ := find?_eq_ok_iff.mp found
  obtain ⟨usable, followed⟩ := locate_eq_ok_iff.mp located
  obtain ⟨slashes, whole, filling⟩ := steps_append path
  rw [whole] at followed
  rcases List.eq_nil_or_concat (steps path) with bare | ⟨front, last, ending⟩
  · have atStart : tree.lookup? (path.origin tree.workingFolder) = some .folder := by
      refine folder_of_follow ?_ followed
      rw [← whole]
      exact List.splitOn_ne_nil slash path.bytes
    have slotless := slot?_of_folder usable (by rw [bare]; rfl) atStart
    rw [bare] at slotless
    rw [makeFolder, slotless]
    rfl
  · rw [List.concat_eq_append] at ending
    rw [ending, List.append_assoc] at followed
    obtain ⟨above, toAbove, further⟩ := follow_append.mp followed
    obtain ⟨aboveFolder, short, later⟩ := follow_cons.mp further
    have same : place = lead above last := (follow_place later).trans (foldl_lead_fillers filling)
    have slot := slot?_of_folder usable (by rw [ending, List.dropLast_concat]; exact toAbove)
      aboveFolder
    rw [ending, List.getLast?_concat] at slot
    dsimp only at slot
    by_cases dots : (isFiller last || isUp last) = true
    · rw [if_pos dots] at slot
      rw [makeFolder, slot]
      rfl
    · rw [if_neg dots, if_neg (Nat.not_lt.mpr short)] at slot
      obtain ⟨solid, inner⟩ := Bool.or_eq_false_iff.mp (Bool.not_eq_true _ ▸ dots)
      have there : tree.lookup? (last :: above) = some .folder := by
        rw [← inFolder, same, lead, solid, if_neg Bool.false_ne_true,
          if_neg (of_decide_eq_false inner)]
      rcases makeFolder_of_slot slot with ⟨free, -⟩ | ⟨-, refused⟩
      · cases free.symm.trans there
      · exact refused

/-- A folder that exists is not made again. -/
theorem createFolders_of_isFolder (there : tree.isFolder path = true) :
    tree.createFolders path = (.ok (), tree) := by
  rw [createFolders]
  unfold createFoldersWithin
  simp only [makeFolder_of_isFolder there, there, if_true, ite_self]

/-- The folder of a name is one. -/
theorem isFolder_parentOf {place : Location} {first : Bytes} {others : List Bytes}
    (named : IsName name) (inside : folder.inside = first :: others)
    (reached : tree.Reaches folder name place) :
    tree.isFolder (parentOf (first :: others)) = true := by
  obtain ⟨followed, inFolder⟩ := opens_iff.mp reached.opens
  obtain ⟨beginning, written⟩ := parentOf_prefix folder name inside named.unslashed
  have unslashed : ∀ segment ∈ first :: others, slash ∉ segment := by
    intro segment member
    refine @unslashed_of_mem_segments (folder.join ⟨name⟩) segment ?_
    rw [segments_join named.unslashed, inside]
    exact List.mem_append_left _ member
  obtain ⟨kept, left, added, whole, segments, filling⟩ := segments_parentOf unslashed
  rw [inside, ← whole] at followed
  obtain ⟨between, toBetween, further⟩ := follow_append.mp followed
  have same : place = between := (follow_place further).trans
    (foldl_lead_fillers fun filler member => filling filler (List.mem_append_left _ member))
  have absolute : (parentOf (first :: others)).isAbsolute = folder.isAbsolute := by
    obtain ⟨rest, bytes⟩ := beginning
    rw [← @isAbsolute_join folder name named.unslashed, isAbsolute, isAbsolute, ← bytes,
      List.head?_append, List.head?_eq_some_head written, Option.some_or]
  refine isFolder_iff.mpr ⟨place, find?_eq_ok_iff.mpr ⟨locate_eq_ok_iff.mpr ⟨?_, ?_⟩, inFolder⟩⟩
  · exact ⟨fun member => reached.usable.unbroken (beginning.subset member), written,
      Nat.le_trans beginning.length_le reached.usable.short⟩
  · rw [segments, origin, absolute]
    refine follow_append.mpr ⟨between, toBetween, ?_⟩
    rw [← same]
    exact (follow_fillers inFolder fun filler member =>
      filling filler (List.mem_append_right _ member)).mpr rfl

/-- **The folder of a name that can be reached is not made again.** -/
theorem createParent_join {place : Location} (named : IsName name)
    (reached : tree.Reaches folder name place) :
    tree.createParent (folder.join ⟨name⟩) = (.ok (), tree) := by
  rw [createParent, parent?_join named]
  cases inside : folder.inside with
  | nil =>
    show tree.createFolders ⟨[]⟩ = _
    rw [createFolders]
    rfl
  | cons first others => exact createFolders_of_isFolder (isFolder_parentOf named inside reached)

/-- The folder of a name that can be reached is not made again, if its path is written. -/
theorem createFolders_of_reaches {place : Location} (named : IsName name)
    (reached : tree.Reaches folder name place) : tree.createFolders folder = (.ok (), tree) := by
  by_cases empty : folder.bytes = []
  · rw [createFolders, empty]
    unfold createFoldersWithin
    rw [empty]
    rfl
  · have beginning := prefix_join folder named.unslashed
    refine createFolders_of_isFolder (isFolder_iff.mpr ⟨place, find?_eq_ok_iff.mpr
      ⟨locate_eq_ok_iff.mpr ⟨⟨?_, empty, ?_⟩, reached.opens.followed⟩, reached.opens.inFolder⟩⟩)
    · exact fun member => reached.usable.unbroken (beginning.subset member)
    · exact Nat.le_trans beginning.length_le reached.usable.short

end ApkFeatures.FileTree
