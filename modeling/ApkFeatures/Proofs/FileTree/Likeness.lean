/-
**Trees that are the same but for some places.**

Two trees may differ at some places, as long as neither has a folder there. The same folders are found
in both then, so a path that leads somewhere leads to the same place in both. Why a path leads nowhere
may differ if it visits one of the places; but no folder can be made at the end of such a path without
one at that place.

* `Visits`, `folder_of_visits` — the places that a path leads to on its way.
* `SameBut`, `SameEntries` — trees that are the same but for some places, or everywhere.
* `SameBut.follow`, `SameBut.find?`, `SameBut.slotName?` — where paths lead.
* `Together`, `SameBut.createFoldersWithin`, `SameBut.createParent` — making folders.
* `SameButAt`, `SameButAt.copyInto` — copying a file to the one place where two trees differ.
* `SameEntries.find?`, `SameEntries.removeFile` — trees that are the same give the same.
-/
import ApkFeatures.Proofs.FileTree.Copying
import ApkFeatures.Proofs.FileTree.Removing

namespace ApkFeatures

open FilePath

/-- A path visits the places to which its segments lead one after the other. -/
def FilePath.Visits (path : FilePath) (base place : Location) : Prop :=
  ∃ front, front <+: path.segments ∧ place = front.foldl lead (path.origin base)

namespace FileTree

variable {spots : Location → Prop} {one other tree made after : FileTree} {place next : Location}
  {path source target : FilePath} {content : Bytes}

/-- **Every place that the path of a folder visits is a folder.** -/
theorem folder_of_visits (there : tree.isFolder path = true)
    (visits : path.Visits tree.workingFolder place) : tree.lookup? place = some .folder := by
  obtain ⟨front, ⟨rest, whole⟩, rfl⟩ := visits
  obtain ⟨ending, found⟩ := isFolder_iff.mp there
  obtain ⟨located, inFolder⟩ := find?_eq_ok_iff.mp found
  obtain ⟨-, followed⟩ := locate_eq_ok_iff.mp located
  rw [← whole] at followed
  obtain ⟨between, before, further⟩ := follow_append.mp followed
  obtain rfl := follow_place before
  cases rest with
  | nil => exact follow_nil.mp further ▸ inFolder
  | cons segment rest => exact folder_of_follow (List.cons_ne_nil _ _) further

/-! ### Trees that are the same but for some places -/

/-- Two trees find the same everywhere but at some places, where neither finds a folder. -/
structure SameBut (spots : Location → Prop) (one other : FileTree) : Prop where
  /-- Relative paths start at the same place. -/
  start : other.workingFolder = one.workingFolder
  /-- What is found at a place. -/
  found : ∀ place, other.lookup? place = one.lookup? place ∨
    spots place ∧ one.lookup? place ≠ some .folder ∧ other.lookup? place ≠ some .folder

/-- Two trees find the same everywhere. -/
abbrev SameEntries : FileTree → FileTree → Prop := SameBut fun _ => False

theorem SameEntries.lookup? (same : SameEntries one other) (place : Location) :
    other.lookup? place = one.lookup? place := (same.found place).resolve_right And.left

namespace SameBut

theorem symm (same : SameBut spots one other) : SameBut spots other one where
  start := same.start.symm
  found := fun place => (same.found place).imp Eq.symm fun ⟨spot, first, second⟩ =>
    ⟨spot, second, first⟩

theorem lookup?_of_not (same : SameBut spots one other) (outside : ¬ spots place) :
    other.lookup? place = one.lookup? place :=
  (same.found place).resolve_right fun inside => outside inside.1

/-- **The same folders are found in both trees.** -/
theorem folder (same : SameBut spots one other) (inFolder : one.lookup? place = some .folder) :
    other.lookup? place = some .folder := by
  rcases same.found place with equal | ⟨-, notFolder, -⟩
  · rw [equal, inFolder]
  · exact absurd inFolder notFolder

/-! ### Paths -/

/-- Segments lead to the same place in both trees, or visit one where they differ. -/
theorem follow (same : SameBut spots one other) (segments : List Bytes) (place : Location) :
    other.follow place segments = one.follow place segments ∨
      ∃ front, front <+: segments ∧ spots (front.foldl lead place) := by
  induction segments generalizing place with
  | nil => exact .inl rfl
  | cons segment rest ih =>
    rcases same.found place with equal | ⟨spot, -⟩
    · have entered : other.enter place segment = one.enter place segment := by
        rw [enter, enter, equal]
      rw [FileTree.follow, FileTree.follow, List.foldlM_cons, List.foldlM_cons, entered]
      cases reached : one.enter place segment with
      | error fault => exact .inl rfl
      | ok next =>
        obtain ⟨-, -, rfl⟩ := enter_eq_ok_iff.mp reached
        refine (ih (lead place segment)).imp_right ?_
        rintro ⟨front, ⟨more, whole⟩, spot⟩
        exact ⟨segment :: front, ⟨more, congrArg (segment :: ·) whole⟩, spot⟩
    · exact .inr ⟨[], List.nil_prefix, spot⟩

theorem start_eq (same : SameBut spots one other) (path : FilePath) :
    other.start path = one.start path := by
  rw [FileTree.start, FileTree.start, same.start]

theorem locate (same : SameBut spots one other) (located : one.locate path = .ok place) :
    other.locate path = .ok place := by
  obtain ⟨usable, followed⟩ := locate_eq_ok_iff.mp located
  refine locate_eq_ok_iff.mpr ⟨usable, ?_⟩
  rw [same.start]
  exact follow_of_folders same.folder followed

/-- **A path leads to the same entry in both trees**, unless they differ there. -/
theorem find? {entry : Entry} (same : SameBut spots one other)
    (outside : ¬ spots (path.placeFrom one.workingFolder))
    (found : one.find? path = .ok (place, entry)) : other.find? path = .ok (place, entry) := by
  obtain ⟨located, there⟩ := find?_eq_ok_iff.mp found
  rw [← locate_place located] at outside
  exact find?_eq_ok_iff.mpr ⟨same.locate located, (same.lookup?_of_not outside).trans there⟩

theorem isFolder (same : SameBut spots one other) (path : FilePath) :
    other.isFolder path = one.isFolder path := by
  have kept {one other : FileTree} (same : SameBut spots one other)
      (there : one.isFolder path = true) : other.isFolder path = true := by
    obtain ⟨place, found⟩ := isFolder_iff.mp there
    obtain ⟨located, inFolder⟩ := find?_eq_ok_iff.mp found
    exact isFolder_iff.mpr ⟨place, find?_eq_ok_iff.mpr ⟨same.locate located, same.folder inFolder⟩⟩
  exact Bool.eq_iff_iff.mpr ⟨kept same.symm, kept same⟩

theorem read (same : SameBut spots one other) (outside : ¬ spots (path.placeFrom one.workingFolder)) :
    SameRead path one other := by
  refine SameRead.iff_read.mpr fun content => ?_
  rw [read_eq_ok_iff, read_eq_ok_iff]
  exact exists_congr fun place => exists_congr fun executable =>
    ⟨same.find? outside, same.symm.find? (same.start ▸ outside)⟩

end SameBut

/-! ### Making a folder -/

/-- The folder and the name that a path gives to something new. -/
def slotName? (tree : FileTree) (path : FilePath) : Except Fault (Option (Location × Bytes)) :=
  (tree.slot? path).map (Option.map fun slot => (slot.folder, slot.name))

theorem slotName?_eq (tree : FileTree) (path : FilePath) :
    tree.slotName? path =
      tree.start path >>= fun place =>
        tree.follow place (steps path).dropLast >>= fun folder =>
          match tree.lookup? folder with
          | none => .error .notFound
          | some (.file _ _) => .error .notFolder
          | some .folder =>
            match (steps path).getLast? with
            | none => .ok none
            | some name =>
              if isFiller name || isUp name then .ok none
              else if longestName < name.length then .error .nameTooLong
              else .ok (some (folder, name)) := by
  rw [slotName?, slot?]
  cases tree.start path with
  | error fault => rfl
  | ok place =>
    simp only [bind, Except.bind]
    cases tree.follow place (steps path).dropLast with
    | error fault => rfl
    | ok folder =>
      dsimp only
      split
      · rename_i missing
        rw [missing]
        rfl
      · rename_i file
        rw [file]
        rfl
      · rename_i inFolder
        simp only [inFolder]
        cases (steps path).getLast? with
        | none => rfl
        | some name =>
          dsimp only
          split
          · rfl
          · split <;> rfl

/-- **A path gives the same name in the same folder in both trees**, or visits a place where they
differ. -/
theorem SameBut.slotName? (same : SameBut spots one other) (path : FilePath) :
    other.slotName? path = one.slotName? path ∨
      ∃ spot, spots spot ∧ path.Visits one.workingFolder spot := by
  obtain ⟨slashes, whole, -⟩ := steps_append path
  have within {front : List Bytes} (beginning : front <+: (steps path).dropLast) :
      front <+: path.segments :=
    beginning.trans ((List.dropLast_prefix _).trans ⟨slashes, whole.symm⟩)
  rw [slotName?_eq, slotName?_eq, same.start_eq]
  cases started : one.start path with
  | error fault => exact .inl rfl
  | ok place =>
    obtain ⟨-, rfl⟩ := start_eq_ok_iff.mp started
    simp only [bind, Except.bind]
    rcases same.follow (steps path).dropLast (path.origin one.workingFolder) with
      equal | ⟨front, beginning, spot⟩
    · rw [equal]
      cases followed : one.follow (path.origin one.workingFolder) (steps path).dropLast with
      | error fault => exact .inl rfl
      | ok folder =>
        dsimp only
        rcases same.found folder with equal | ⟨spot, -⟩
        · rw [equal]
          exact .inl rfl
        · exact .inr ⟨folder, spot, _, within (List.prefix_refl _), follow_place followed⟩
    · exact .inr ⟨_, spot, front, within beginning, rfl⟩

theorem makeFolder_of_fault {fault : Fault} (given : tree.slotName? path = .error fault) :
    tree.makeFolder path = .error fault := by
  rw [slotName?] at given
  rw [makeFolder]
  cases slot : tree.slot? path with
  | error other =>
    rw [slot] at given
    cases given
    rfl
  | ok slot? =>
    rw [slot] at given
    cases given

theorem makeFolder_of_none (given : tree.slotName? path = .ok none) :
    tree.makeFolder path = .error .alreadyExists := by
  rw [slotName?] at given
  rw [makeFolder]
  rcases slot : tree.slot? path with fault | _ | slot
  · rw [slot] at given
    cases given
  · rfl
  · rw [slot] at given
    cases given

/-- A name in a folder is made a folder just if there is nothing of the name. -/
theorem makeFolder_of_slotName {folder : Location} {name : Bytes}
    (given : tree.slotName? path = .ok (some (folder, name))) :
    name :: folder = path.placeFrom tree.workingFolder ∧
      (tree.lookup? (name :: folder) = none ∧ (∃ made, tree.makeFolder path = .ok made ∧
          ∀ place, made.lookup? place =
            if place = name :: folder then some .folder else tree.lookup? place) ∨
        tree.lookup? (name :: folder) ≠ none ∧ tree.makeFolder path = .error .alreadyExists) := by
  rw [slotName?] at given
  rcases slot : tree.slot? path with fault | _ | slot
  · rw [slot] at given
    cases given
  · rw [slot] at given
    cases given
  · rw [slot] at given
    cases given
    refine ⟨(slot_place slot).1, (makeFolder_of_slot slot).imp_left ?_⟩
    rintro ⟨free, made, done⟩
    obtain ⟨again, same, -, lookup⟩ := makeFolder_eq_ok done
    cases slot.symm.trans same
    exact ⟨free, made, done, lookup⟩

/-- **A folder is made in both trees, or in neither for the same reason**, unless its path visits a
place where they differ. -/
theorem SameBut.makeFolder (same : SameBut spots one other) (path : FilePath) :
    (∃ made made', one.makeFolder path = .ok made ∧ other.makeFolder path = .ok made' ∧
        SameBut spots made made') ∨
      (∃ fault, one.makeFolder path = .error fault ∧ other.makeFolder path = .error fault) ∨
        ∃ spot, spots spot ∧ path.Visits one.workingFolder spot := by
  rcases same.slotName? path with equal | visits
  · rcases given : one.slotName? path with fault | _ | ⟨folder, name⟩
    · exact .inr (.inl ⟨fault, makeFolder_of_fault given, makeFolder_of_fault (equal.trans given)⟩)
    · exact .inr (.inl ⟨_, makeFolder_of_none given, makeFolder_of_none (equal.trans given)⟩)
    · obtain ⟨ending, here⟩ := makeFolder_of_slotName given
      obtain ⟨-, there⟩ := makeFolder_of_slotName (equal.trans given)
      rcases same.found (name :: folder) with alike | ⟨spot, -⟩
      · rw [alike] at there
        rcases here with ⟨free, made, done, lookup⟩ | ⟨taken, refused⟩
        · obtain ⟨-, made', done', lookup'⟩ := there.resolve_right fun taken => taken.1 free
          refine .inl ⟨made, made', done, done', ?_, fun place => ?_⟩
          · rw [(makeFolder_onlyWrites done').workingFolder, same.start,
              (makeFolder_onlyWrites done).workingFolder]
          · rw [lookup, lookup']
            split
            · exact .inl rfl
            · exact same.found place
        · exact .inr (.inl ⟨_, refused, (there.resolve_left fun free => taken free.1).2⟩)
      · exact .inr (.inr ⟨_, spot, path.segments, List.prefix_refl _, ending⟩)
  · exact .inr (.inr visits)

/-! ### Making the folders of a path -/

/-- Two changes give the same result and leave trees that are the same but for some places, or they
need a folder at one of these places. -/
def Together (spots : Location → Prop) (first second : Except Fault Unit × FileTree) : Prop :=
  (second.1 = first.1 ∧ SameBut spots first.2 second.2) ∨
    ∃ spot, spots spot ∧ (first.1 = .ok () → first.2.lookup? spot = some .folder) ∧
      (second.1 = .ok () → second.2.lookup? spot = some .folder)

/-- What could only have been made as a folder needs a folder wherever its path goes. -/
theorem Together.of_visits {first second : Except Fault Unit × FileTree}
    (based : first.2.workingFolder = one.workingFolder)
    (based' : second.2.workingFolder = one.workingFolder)
    (made : first.1 = .ok () → first.2.isFolder path = true)
    (made' : second.1 = .ok () → second.2.isFolder path = true)
    (visits : ∃ spot, spots spot ∧ path.Visits one.workingFolder spot) :
    Together spots first second := by
  obtain ⟨spot, inside, through⟩ := visits
  exact .inr ⟨spot, inside, fun done => folder_of_visits (made done) (based ▸ through),
    fun done => folder_of_visits (made' done) (based' ▸ through)⟩

theorem SameBut.ensureFolder (same : SameBut spots one other) (path : FilePath) :
    Together spots (one.ensureFolder path) (other.ensureFolder path) := by
  have based (tree : FileTree) := (ensureFolder_onlyWrites tree path).workingFolder
  rcases same.makeFolder path with ⟨made, made', done, done', alike⟩ | ⟨fault, failed, failed'⟩ | visits
  · rw [FileTree.ensureFolder, FileTree.ensureFolder, done, done']
    exact .inl ⟨rfl, alike⟩
  · rw [FileTree.ensureFolder, FileTree.ensureFolder, failed, failed', same.isFolder]
    exact .inl ⟨rfl, same⟩
  · exact .of_visits (based one) ((based other).trans same.start)
      (fun done => isFolder_of_ensureFolder (Prod.ext done rfl))
      (fun done => isFolder_of_ensureFolder (Prod.ext done rfl)) visits

/-- A folder that is made after those above it, if they could be made. -/
def ensureAfter (above : Except Fault Unit × FileTree) (path : FilePath) :
    Except Fault Unit × FileTree :=
  match above with
  | (.ok (), made) => made.ensureFolder path
  | failed => failed

theorem lookup?_ensureAfter {above : Except Fault Unit × FileTree} (path : FilePath)
    (needed : above.1 = .ok () → above.2.lookup? place = some .folder) :
    (ensureAfter above path).1 = .ok () →
      (ensureAfter above path).2.lookup? place = some .folder := by
  rcases above with ⟨fault | done, made⟩
  · exact needed
  · exact fun _ => (ensureFolder_onlyWrites made path).folder (needed rfl)

theorem Together.ensureAfter {first second : Except Fault Unit × FileTree}
    (above : Together spots first second) (path : FilePath) :
    Together spots (ensureAfter first path) (ensureAfter second path) := by
  rcases above with ⟨equal, alike⟩ | ⟨spot, inside, needed, needed'⟩
  · rcases first with ⟨fault | done, made⟩ <;> rcases second with ⟨fault' | done', made'⟩
    · exact .inl ⟨equal, alike⟩
    · cases equal
    · cases equal
    · exact alike.ensureFolder path
  · exact .inr ⟨spot, inside, lookup?_ensureAfter path needed, lookup?_ensureAfter path needed'⟩

/-- Folders are made together if those above are. -/
theorem SameBut.createFoldersWithin_of_above (same : SameBut spots one other) (depth : Nat)
    (path : FilePath) (above : ∀ fewer parent, depth = fewer + 1 →
      Together spots (createFoldersWithin fewer one parent)
        (createFoldersWithin fewer other parent)) :
    Together spots (createFoldersWithin depth one path) (createFoldersWithin depth other path) := by
  by_cases empty : path.bytes.isEmpty = true
  · unfold createFoldersWithin
    rw [if_pos empty, if_pos empty]
    exact .inl ⟨rfl, same⟩
  · have based (tree : FileTree) := (createFoldersWithin_onlyWrites depth tree path).workingFolder
    have written : path.bytes.isEmpty = false := Bool.eq_false_iff.mpr empty
    rcases same.makeFolder path with
      ⟨made, made', done, done', alike⟩ | ⟨fault, failed, failed'⟩ | visits
    · unfold createFoldersWithin
      rw [if_neg empty, if_neg empty, done, done']
      exact .inl ⟨rfl, alike⟩
    · unfold createFoldersWithin
      rw [if_neg empty, if_neg empty, failed, failed', same.isFolder]
      cases fault with
      | notFound =>
        cases depth with
        | zero => exact .inl ⟨rfl, same⟩
        | succ fewer =>
          cases path.parent? with
          | none => exact .inl ⟨rfl, same⟩
          | some parent => exact (above fewer parent rfl).ensureAfter path
      | _ => exact .inl ⟨rfl, same⟩
    · exact .of_visits (based one) ((based other).trans same.start)
        (fun done => isFolder_of_createFoldersWithin written (Prod.ext done rfl))
        (fun done => isFolder_of_createFoldersWithin written (Prod.ext done rfl)) visits

/-- **Folders are made together**, the highest one that is missing first. -/
theorem SameBut.createFoldersWithin (same : SameBut spots one other) (depth : Nat) :
    ∀ path, Together spots (createFoldersWithin depth one path)
      (createFoldersWithin depth other path) := by
  induction depth with
  | zero => exact fun path => same.createFoldersWithin_of_above 0 path fun _ _ deeper => nomatch deeper
  | succ depth ih =>
    refine fun path => same.createFoldersWithin_of_above _ path fun fewer parent deeper => ?_
    obtain rfl := Nat.succ.inj deeper
    exact ih parent

theorem SameBut.createParent (same : SameBut spots one other) (path : FilePath) :
    Together spots (one.createParent path) (other.createParent path) := by
  rw [FileTree.createParent, FileTree.createParent]
  cases path.parent? with
  | none => exact .inl ⟨rfl, same⟩
  | some parent => exact same.createFoldersWithin _ parent

/-! ### Copying to a place where the trees differ -/

theorem SameBut.copy (same : SameBut spots one other)
    (outside : ¬ spots (source.placeFrom one.workingFolder))
    (apart : source.placeFrom one.workingFolder ≠ target.placeFrom one.workingFolder)
    (copied : one.copy source target = (.ok (), after)) :
    ∃ after', other.copy source target = (.ok (), after') := by
  obtain ⟨place, old, executable, emptied, content, found, put, -, -⟩ := copy_eq_ok copied
  obtain ⟨slot, given, free, -⟩ := putFile_eq_ok put
  rw [(slot_place given).1] at free
  obtain ⟨emptied', put'⟩ := putFile_of_putFile put same.start same.folder
    (fun inFolder => free (same.symm.folder inFolder)) [] (some executable)
  rw [← same.start] at apart
  exact copy_of_putFile apart (same.find? outside found) put'

/-- Two trees find the same everywhere but at the place of a file. -/
def SameButAt (path : FilePath) (one other : FileTree) : Prop :=
  SameBut (· = path.placeFrom one.workingFolder) one other

theorem SameButAt.symm (same : SameButAt path one other) : SameButAt path other one := by
  unfold SameButAt at same ⊢
  rw [same.start]
  exact SameBut.symm same

/-- **What can be copied to the place where the trees differ can be copied in both.** -/
theorem SameButAt.copyInto (same : SameButAt target one other)
    (apart : source.placeFrom one.workingFolder ≠ target.placeFrom one.workingFolder)
    (copied : one.copyInto source target = (.ok (), after)) :
    ∃ after', other.copyInto source target = (.ok (), after') := by
  obtain ⟨made, created, copied⟩ := copyInto_eq_ok copied
  have based := (createParent_onlyWrites one target).workingFolder
  have together := SameBut.createParent same target
  rw [created] at based together
  change made.workingFolder = one.workingFolder at based
  rcases together with ⟨equal, alike⟩ | ⟨spot, rfl, needed, -⟩
  · rw [← based] at alike apart
    obtain ⟨after', again⟩ := alike.copy apart apart copied
    refine ⟨after', ?_⟩
    rcases created' : other.createParent target with ⟨result, made'⟩
    rw [created'] at equal again
    cases equal
    rw [FileTree.copyInto, created']
    exact again
  · obtain ⟨-, -, executable, emptied, -, -, put, -⟩ := copy_eq_ok copied
    obtain ⟨slot, given, free, -⟩ := putFile_eq_ok put
    rw [(slot_place given).1, based] at free
    exact absurd (needed rfl) free

/-! ### Trees that are the same -/

namespace SameEntries

theorem find? (same : SameEntries one other) (path : FilePath) :
    other.find? path = one.find? path := by
  have located : other.locate path = one.locate path := by
    rw [FileTree.locate, FileTree.locate, same.start_eq]
    refine bind_congr fun place => (same.follow path.segments place).resolve_right ?_
    rintro ⟨-, -, ⟨⟩⟩
  rw [FileTree.find?, FileTree.find?, located]
  exact bind_congr fun place => by rw [same.lookup?]

theorem read (same : SameEntries one other) (path : FilePath) : other.read path = one.read path := by
  rw [FileTree.read, FileTree.read, same.find?]

theorem hasContent (same : SameEntries one other) (path : FilePath) :
    other.hasContent path = one.hasContent path := by
  rw [FileTree.hasContent, FileTree.hasContent, same.read]

theorem contains (same : SameEntries one other) (path : FilePath) :
    other.contains path = one.contains path := by
  rw [FileTree.contains, FileTree.contains, same.find?]

theorem removeFile (same : SameEntries one other) (path : FilePath) :
    (∃ fault, one.removeFile path = .error fault ∧ other.removeFile path = .error fault) ∨
      ∃ removed removed', one.removeFile path = .ok removed ∧ other.removeFile path = .ok removed' ∧
        SameEntries removed removed' := by
  rw [FileTree.removeFile, FileTree.removeFile, same.find?]
  rcases one.find? path with fault | ⟨place, ⟨content, executable⟩ | _⟩
  · exact .inl ⟨fault, rfl, rfl⟩
  · refine .inr ⟨_, _, rfl, rfl, same.start, fun inside => .inl ?_⟩
    rw [lookup?_erase, lookup?_erase, same.lookup?]
  · exact .inl ⟨_, rfl, rfl⟩

theorem createFolders (same : SameEntries one other) (path : FilePath) :
    (other.createFolders path).1 = (one.createFolders path).1 ∧
      SameEntries (one.createFolders path).2 (other.createFolders path).2 := by
  refine (same.createFoldersWithin path.bytes.length path).resolve_right ?_
  rintro ⟨-, ⟨⟩, -⟩

end SameEntries

end FileTree

end ApkFeatures
