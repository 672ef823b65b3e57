/-
**Trees that differ in what their files hold.**

Where a path leads is told by the names in folders, and by what is a folder, not by what files hold.
So in two trees with the same names a path leads to the same place or to none for the same reason, and
what is made in one can be made in the other.

* `Entry.Alike`, `SameShape` — trees with the same names, and files with contents that are alike.
* `SameShape.find?`, `SameShape.read` — what a path leads to.
* `SameShape.createParent`, `SameShape.write` — making folders and files.
* `sameShape_of_write` — a file whose content is replaced by one that is alike.
-/
import ApkFeatures.Proofs.FileTree.Likeness

namespace ApkFeatures

/-- Entries of one kind, files with contents that are alike. -/
inductive Entry.Alike (alike : Bytes → Bytes → Prop) : Entry → Entry → Prop where
  /-- Two files. -/
  | file {content other : Bytes} {executable executable' : Bool} (contents : alike content other) :
    Alike alike (.file content executable) (.file other executable')
  /-- Two folders. -/
  | folder : Alike alike .folder .folder

theorem Entry.Alike.refl {alike : Bytes → Bytes → Prop} (same : ∀ content, alike content content)
    (entry : Entry) : Alike alike entry entry := by
  cases entry with
  | file content executable => exact .file (same content)
  | folder => exact .folder

namespace FileTree

variable {alike : Bytes → Bytes → Prop} {one other : FileTree} {path : FilePath} {place : Location}

/-- Two trees have the same names, for files with contents that are alike. -/
structure SameShape (alike : Bytes → Bytes → Prop) (one other : FileTree) : Prop where
  /-- Relative paths start at the same place. -/
  start : other.workingFolder = one.workingFolder
  /-- At every place there is nothing in both, or something of one kind. -/
  found : ∀ place, Option.Rel (Entry.Alike alike) (one.lookup? place) (other.lookup? place)

namespace SameShape

theorem folder_iff (same : SameShape alike one other) :
    other.lookup? place = some .folder ↔ one.lookup? place = some .folder := by
  generalize one.lookup? place = here, other.lookup? place = there, same.found place = alike
  cases alike with
  | none => rfl
  | some entries => cases entries <;> simp

/-! ### Paths -/

theorem enter_eq (same : SameShape alike one other) : other.enter = one.enter := by
  funext place segment
  rw [enter, enter]
  generalize one.lookup? place = here, other.lookup? place = there, same.found place = alike
  cases alike with
  | none => rfl
  | some entries => cases entries <;> rfl

theorem follow_eq (same : SameShape alike one other) : other.follow = one.follow := by
  funext place segments
  rw [follow, same.enter_eq, follow]

theorem start_eq (same : SameShape alike one other) (path : FilePath) :
    other.start path = one.start path := by
  rw [FileTree.start, FileTree.start, same.start]

theorem locate_eq (same : SameShape alike one other) (path : FilePath) :
    other.locate path = one.locate path := by
  rw [locate, same.start_eq, same.follow_eq, locate]

/-- **A path leads to entries that are alike**, or nowhere for the same reason. -/
theorem find? (same : SameShape alike one other) (path : FilePath) :
    (∃ fault, one.find? path = .error fault ∧ other.find? path = .error fault) ∨
      ∃ place entry entry', one.find? path = .ok (place, entry) ∧
        other.find? path = .ok (place, entry') ∧ Entry.Alike alike entry entry' := by
  rw [FileTree.find?, FileTree.find?, same.locate_eq]
  rcases one.locate path with fault | place
  · exact .inl ⟨fault, rfl, rfl⟩
  · simp only [bind, Except.bind]
    generalize one.lookup? place = here, other.lookup? place = there, same.found place = alike
    cases alike with
    | none => exact .inl ⟨_, rfl, rfl⟩
    | some entries => exact .inr ⟨place, _, _, rfl, rfl, entries⟩

theorem isFolder_eq (same : SameShape alike one other) (path : FilePath) :
    other.isFolder path = one.isFolder path := by
  rw [isFolder, isFolder]
  rcases same.find? path with ⟨fault, here, there⟩ | ⟨place, entry, entry', here, there, entries⟩
  · rw [here, there]
  · rw [here, there]
    cases entries <;> rfl

/-- **Contents are read that are alike**, or none for the same reason. -/
theorem read (same : SameShape alike one other) (path : FilePath) :
    (∃ fault, one.read path = .error fault ∧ other.read path = .error fault) ∨
      ∃ content content', one.read path = .ok content ∧ other.read path = .ok content' ∧
        alike content content' := by
  rw [FileTree.read, FileTree.read]
  rcases same.find? path with ⟨fault, here, there⟩ | ⟨place, entry, entry', here, there, entries⟩
  · rw [here, there]
    exact .inl ⟨fault, rfl, rfl⟩
  · rw [here, there]
    cases entries with
    | file contents => exact .inr ⟨_, _, rfl, rfl, contents⟩
    | folder => exact .inl ⟨_, rfl, rfl⟩

/-! ### Making folders -/

theorem slotName?_eq (same : SameShape alike one other) (path : FilePath) :
    other.slotName? path = one.slotName? path := by
  rw [FileTree.slotName?_eq, FileTree.slotName?_eq, same.start_eq, same.follow_eq]
  refine bind_congr fun start => bind_congr fun folder => ?_
  generalize one.lookup? folder = here, other.lookup? folder = there, same.found folder = alike
  cases alike with
  | none => rfl
  | some entries => cases entries <;> rfl

/-- **A folder is made in both trees**, or in neither for the same reason. -/
theorem makeFolder (same : SameShape alike one other) (path : FilePath) :
    (∃ fault, one.makeFolder path = .error fault ∧ other.makeFolder path = .error fault) ∨
      ∃ made made', one.makeFolder path = .ok made ∧ other.makeFolder path = .ok made' ∧
        SameShape alike made made' := by
  have equal := same.slotName?_eq path
  rcases given : one.slotName? path with fault | _ | ⟨folder, name⟩
  · exact .inl ⟨fault, makeFolder_of_fault given, makeFolder_of_fault (equal.trans given)⟩
  · exact .inl ⟨_, makeFolder_of_none given, makeFolder_of_none (equal.trans given)⟩
  · obtain ⟨-, here⟩ := makeFolder_of_slotName given
    obtain ⟨-, there⟩ := makeFolder_of_slotName (equal.trans given)
    have free : other.lookup? (name :: folder) = none ↔ one.lookup? (name :: folder) = none := by
      generalize one.lookup? (name :: folder) = here, other.lookup? (name :: folder) = there,
        same.found (name :: folder) = alike
      cases alike <;> simp
    rcases here with ⟨isFree, made, done, lookup⟩ | ⟨taken, refused⟩
    · obtain ⟨-, made', done', lookup'⟩ := there.resolve_right fun taken => taken.1 (free.mpr isFree)
      refine .inr ⟨made, made', done, done', ?_, fun place => ?_⟩
      · rw [(makeFolder_onlyWrites done').workingFolder, same.start,
          (makeFolder_onlyWrites done).workingFolder]
      · rw [lookup, lookup']
        split
        · exact .some .folder
        · exact same.found place
    · obtain ⟨-, refused'⟩ := there.resolve_left fun isFree => taken (free.mp isFree.1)
      exact .inl ⟨_, refused, refused'⟩

/-- Two changes give the same result and leave trees with the same names. -/
def Alongside (alike : Bytes → Bytes → Prop) (first second : Except Fault Unit × FileTree) : Prop :=
  second.1 = first.1 ∧ SameShape alike first.2 second.2

theorem ensureFolder (same : SameShape alike one other) (path : FilePath) :
    Alongside alike (one.ensureFolder path) (other.ensureFolder path) := by
  rw [FileTree.ensureFolder, FileTree.ensureFolder]
  rcases same.makeFolder path with ⟨fault, failed, failed'⟩ | ⟨made, made', done, done', shape⟩
  · rw [failed, failed', same.isFolder_eq]
    exact ⟨rfl, same⟩
  · rw [done, done']
    exact ⟨rfl, shape⟩

theorem Alongside.ensureAfter {first second : Except Fault Unit × FileTree}
    (above : Alongside alike first second) (path : FilePath) :
    Alongside alike (ensureAfter first path) (ensureAfter second path) := by
  obtain ⟨result, made⟩ := first
  obtain ⟨result', made'⟩ := second
  obtain ⟨equal, shape⟩ := above
  change result' = result at equal
  subst equal
  cases result' with
  | error fault => exact ⟨rfl, shape⟩
  | ok done => exact shape.ensureFolder path

/-- Folders are made in both trees if those above are. -/
theorem createFoldersWithin_of_above (same : SameShape alike one other) (depth : Nat)
    (path : FilePath) (above : ∀ fewer parent, depth = fewer + 1 →
      Alongside alike (createFoldersWithin fewer one parent)
        (createFoldersWithin fewer other parent)) :
    Alongside alike (createFoldersWithin depth one path) (createFoldersWithin depth other path) := by
  unfold createFoldersWithin
  by_cases empty : path.bytes.isEmpty = true
  · rw [if_pos empty, if_pos empty]
    exact ⟨rfl, same⟩
  · rw [if_neg empty, if_neg empty]
    rcases same.makeFolder path with ⟨fault, failed, failed'⟩ | ⟨made, made', done, done', shape⟩
    · rw [failed, failed', same.isFolder_eq]
      cases fault with
      | notFound =>
        cases depth with
        | zero => exact ⟨rfl, same⟩
        | succ fewer =>
          cases path.parent? with
          | none => exact ⟨rfl, same⟩
          | some parent => exact (above fewer parent rfl).ensureAfter path
      | _ => exact ⟨rfl, same⟩
    · rw [done, done']
      exact ⟨rfl, shape⟩

/-- **Folders are made in both trees**, the highest one that is missing first. -/
theorem createFoldersWithin (same : SameShape alike one other) (depth : Nat) :
    ∀ path, Alongside alike (createFoldersWithin depth one path)
      (createFoldersWithin depth other path) := by
  induction depth with
  | zero =>
    exact fun path => same.createFoldersWithin_of_above 0 path fun _ _ deeper => nomatch deeper
  | succ depth ih =>
    refine fun path => same.createFoldersWithin_of_above _ path fun fewer parent deeper => ?_
    obtain rfl := Nat.succ.inj deeper
    exact ih parent

theorem createParent (same : SameShape alike one other) (path : FilePath) :
    Alongside alike (one.createParent path) (other.createParent path) := by
  rw [FileTree.createParent, FileTree.createParent]
  cases path.parent? with
  | none => exact ⟨rfl, same⟩
  | some parent => exact same.createFoldersWithin _ parent

/-! ### Making files -/

/-- **A file is written in both trees or in neither.** -/
theorem write (same : SameShape alike one other) (path : FilePath) {content : Bytes}
    (like : alike content content) :
    (∃ fault fault', one.write path content = .error fault ∧
        other.write path content = .error fault') ∨
      ∃ made made', one.write path content = .ok made ∧ other.write path content = .ok made' ∧
        SameShape alike made made' := by
  rcases here : one.write path content with fault | made
  · rcases there : other.write path content with fault' | made'
    · exact .inl ⟨fault, fault', rfl, rfl⟩
    · -- What is written in the second tree could be written in the first one.
      obtain ⟨slot, given, free, -⟩ := putFile_eq_ok there
      rw [(slot_place given).1] at free
      obtain ⟨again, written⟩ := putFile_of_putFile there same.start.symm same.folder_iff.mp
        (mt same.folder_iff.mpr free) content none
      cases written.symm.trans here
  · obtain ⟨slot, given, free, based, executable, lookup⟩ := putFile_eq_ok here
    rw [(slot_place given).1] at free lookup
    obtain ⟨made', there⟩ := putFile_of_putFile here same.start same.folder_iff.mpr
      (mt same.folder_iff.mp free) content none
    obtain ⟨slot', given', -, based', executable', lookup'⟩ := putFile_eq_ok there
    rw [(slot_place given').1, same.start] at lookup'
    refine .inr ⟨made, made', rfl, there, ?_, fun place => ?_⟩
    · rw [based', based, same.start]
    · rw [lookup, lookup']
      split
      · exact .some (.file like)
      · exact same.found place

end SameShape

/-- **A file whose content is replaced by one that is alike** leaves the tree as it is. -/
theorem sameShape_of_write {tree changed : FileTree} {before after : Bytes}
    (same : ∀ content, alike content content) (given : tree.read path = .ok before)
    (contents : alike before after) (written : tree.write path after = .ok changed) :
    SameShape alike tree changed := by
  obtain ⟨slot, named, -, based, executable, lookup⟩ := putFile_eq_ok written
  obtain ⟨place, executable', found⟩ := read_eq_ok_iff.mp given
  obtain ⟨located, there⟩ := find?_eq_ok_iff.mp found
  refine ⟨based, fun place' => ?_⟩
  rw [lookup, (slot_place named).1, ← locate_place located]
  by_cases here : place' = place
  · rw [if_pos here, here, there]
    exact .some (.file contents)
  · rw [if_neg here]
    cases tree.lookup? place' with
    | none => exact .none
    | some entry => exact .some (.refl same entry)

end FileTree

end ApkFeatures
