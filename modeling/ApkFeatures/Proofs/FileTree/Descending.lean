/-
**Paths that only lead downwards.**

A path without a step to the folder above goes from folder to folder below where it starts. Since
everything above an entry is a folder, such a path leads to an entry just if the entry is at its
place and the path is short enough. So two trees that hold the same at a place agree about the path,
whatever else they hold.

* `Descends`, `IsSound` — a path that only leads downwards, and one that is short enough.
* `folder_of_suffix` — what an entry lies in is a folder.
* `reaches_iff`, `read_join_iff`, `isFolder_join_iff`, `write_join_iff` — what is found by the place.
* `SameRead` — two trees give the same when a path is read.
* `OnlyWrites.sameRead` — what is written elsewhere does not matter, in both directions.
-/
import ApkFeatures.Proofs.FileTree.Writing
import Mathlib.Data.List.Nodup

namespace ApkFeatures

namespace FilePath

variable {path folder : FilePath} {name : Bytes} {base place : Location}

/-- The path has no step to the folder above. -/
def Descends (path : FilePath) : Prop := Component.up ∉ path.components

instance (path : FilePath) : Decidable path.Descends :=
  inferInstanceAs (Decidable (Component.up ∉ path.components))

/-- Bytes that can be the path of something, with names that are not too long. -/
structure IsSound (path : FilePath) : Prop where
  /-- The path can be used at all. -/
  usable : path.IsUsable
  /-- Its names are not too long. -/
  narrow : ∀ segment ∈ path.segments, segment.length ≤ FileTree.longestName

theorem descends_iff : path.Descends ↔ [dot, dot] ∉ path.segments := by
  refine not_congr ⟨fun member => ?_, fun member => ?_⟩
  · rcases List.mem_append.mp member with start | later
    · have first := Option.mem_toList.mp start
      unfold start? at first
      split at first
      · cases first
      · split at first <;> cases first
    · obtain ⟨segment, inside, component⟩ := List.mem_filterMap.mp later
      unfold Component.ofSegment? at component
      split at component
      · cases component
      · split at component
        · rename_i up
          exact up ▸ inside
        · cases component
  · exact List.mem_append_right _ (List.mem_filterMap.mpr ⟨_, member, by decide⟩)

theorem mem_inside_of_mem {segment : Bytes} (member : segment ∈ folder.inside) :
    segment ∈ folder.segments := by
  rcases segments_eq_inside folder with same | slashed
  · rwa [same]
  · rw [slashed]
    exact List.mem_append_left _ member

theorem Descends.inside (descends : folder.Descends) : [dot, dot] ∉ folder.inside :=
  fun member => descends_iff.mp descends (mem_inside_of_mem member)

theorem Descends.join (descends : folder.Descends) (named : IsName name) :
    (folder.join ⟨name⟩).Descends := by
  rw [descends_iff, segments_join named.unslashed, List.mem_append, not_or, List.mem_singleton]
  exact ⟨descends.inside, named.inner.symm⟩

theorem isSound_join_iff (named : IsName name) :
    (folder.join ⟨name⟩).IsSound ↔ (folder.join ⟨name⟩).IsUsable ∧
      (∀ segment ∈ folder.inside, segment.length ≤ FileTree.longestName) ∧
        name.length ≤ FileTree.longestName := by
  have both (segment : Bytes) : segment ∈ (folder.join ⟨name⟩).segments ↔
      segment ∈ folder.inside ∨ segment = name := by
    rw [segments_join named.unslashed, List.mem_append, List.mem_singleton]
  constructor
  · intro sound
    exact ⟨sound.usable, fun segment member => sound.narrow segment ((both segment).mpr (.inl member)),
      sound.narrow name ((both name).mpr (.inr rfl))⟩
  · rintro ⟨usable, narrow, short⟩
    refine ⟨usable, fun segment member => ?_⟩
    rcases (both segment).mp member with inside | rfl
    · exact narrow segment inside
    · exact short

/-! ### Places -/

theorem suffix_lead {segment : Bytes} (down : segment ≠ [dot, dot]) (place : Location) :
    place <:+ lead place segment := by
  unfold lead
  by_cases filling : isFiller segment = true
  · simp [filling]
  · simp [filling, down]

theorem suffix_foldl_lead {segments : List Bytes} (down : [dot, dot] ∉ segments)
    (place : Location) : place <:+ segments.foldl lead place := by
  induction segments generalizing place with
  | nil => exact List.suffix_refl _
  | cons segment rest ih =>
    rw [List.mem_cons, not_or] at down
    exact (suffix_lead (Ne.symm down.1) place).trans (ih down.2 _)

theorem Descends.origin_suffix (descends : path.Descends) (base : Location) :
    path.origin base <:+ path.placeFrom base := suffix_foldl_lead (descends_iff.mp descends) _

theorem placeFrom_eq_inside (folder : FilePath) (base : Location) :
    folder.placeFrom base = folder.inside.foldl lead (folder.origin base) :=
  (foldl_lead_inside folder _).symm

end FilePath

namespace FileTree

open FilePath

variable {tree before after : FileTree} {place below next : Location} {path folder : FilePath}
  {name content : Bytes} {files : List Location}

/-- A file stands at the location. -/
def HoldsFile (tree : FileTree) (place : Location) : Prop :=
  ∃ content executable, tree.lookup? place = some (.file content executable)

/-! ### What entries lie in -/

theorem folder_of_entry {entry : Entry} (found : tree.lookup? (name :: place) = some entry) :
    tree.lookup? place = some .folder := by
  refine tree.rooted name place (lookup_isSome.mp ?_)
  rw [show tree.entries.lookup (name :: place) = some entry from found]
  rfl

/-- **What an entry lies in is a folder.** -/
theorem folder_of_suffix {entry : Entry} (above : place <:+ below) (different : place ≠ below)
    (found : tree.lookup? below = some entry) : tree.lookup? place = some .folder := by
  induction below generalizing entry with
  | nil => exact absurd (List.suffix_nil.mp above) different
  | cons first rest ih =>
    have inFolder := folder_of_entry found
    rcases List.suffix_cons_iff.mp above with same | further
    · exact absurd same different
    · by_cases here : place = rest
      · rwa [here]
      · exact ih further here inFolder

theorem folder_of_folder (above : place <:+ below) (found : tree.lookup? below = some .folder) :
    tree.lookup? place = some .folder := by
  by_cases same : place = below
  · rwa [same]
  · exact folder_of_suffix above same found

/-- The name of what is directly in a folder. -/
def nameIn (folder : Location) : Location → Option Bytes
  | [] => none
  | name :: above => if above = folder then some name else none

theorem nodup_names (tree : FileTree) (place : Location) : (tree.names place).Nodup := by
  have keys : tree.names place = (tree.entries.map Prod.fst).filterMap (nameIn place) := by
    rw [List.filterMap_map]
    rfl
  rw [keys]
  refine List.Nodup.filterMap (fun first second name here there => ?_) tree.distinct
  cases first with
  | nil => cases here
  | cons bytes above =>
    cases second with
    | nil => cases there
    | cons bytes' above' =>
      simp only [nameIn, Option.mem_def, Option.ite_none_right_eq_some, Option.some.injEq]
        at here there
      rw [here.1, here.2, there.1, there.2]

/-- **A folder with the same entries has the same names**, in any order. -/
theorem names_perm (same : ∀ name, (before.lookup? (name :: place)).isSome =
    (after.lookup? (name :: place)).isSome) : (before.names place).Perm (after.names place) :=
  (List.perm_ext_iff_of_nodup (nodup_names before place) (nodup_names after place)).mpr fun name => by
    rw [mem_names, mem_names, same]

/-! ### Where downward paths lead -/

theorem narrow_of_follow {segments : List Bytes} (followed : tree.follow place segments = .ok next) :
    ∀ segment ∈ segments, segment.length ≤ longestName := by
  induction segments generalizing place with
  | nil => exact fun segment member => nomatch member
  | cons first rest ih =>
    obtain ⟨-, short, later⟩ := follow_cons.mp followed
    exact List.forall_mem_cons.mpr ⟨short, ih later⟩

/-- Segments that only lead downwards to a folder can be followed. -/
theorem follow_of_folder {segments : List Bytes} (down : [dot, dot] ∉ segments)
    (narrow : ∀ segment ∈ segments, segment.length ≤ longestName)
    (inFolder : tree.lookup? (segments.foldl lead place) = some .folder) :
    tree.follow place segments = .ok (segments.foldl lead place) := by
  induction segments generalizing place with
  | nil => rfl
  | cons segment rest ih =>
    obtain ⟨short, others⟩ := List.forall_mem_cons.mp narrow
    have start := folder_of_folder (suffix_foldl_lead down place) inFolder
    rw [List.mem_cons, not_or] at down
    exact follow_cons.mpr ⟨start, short, ih down.2 others inFolder⟩

/-- **A name in a folder is reached just if the folder is one**, and the path is short enough. -/
theorem reaches_iff (descends : folder.Descends) (named : IsName name) :
    tree.Reaches folder name place ↔ (folder.join ⟨name⟩).IsSound ∧
      place = folder.placeFrom tree.workingFolder ∧ tree.lookup? place = some .folder := by
  rw [isSound_join_iff named]
  constructor
  · intro reached
    have narrow := narrow_of_follow (opens_iff.mp reached.opens).1
    exact ⟨⟨reached.usable, narrow, reached.short⟩, reached.opens.place_eq, reached.opens.inFolder⟩
  · rintro ⟨⟨usable, narrow, short⟩, rfl, inFolder⟩
    refine ⟨usable, opens_iff.mpr ⟨?_, inFolder⟩, short⟩
    rw [placeFrom_eq_inside] at inFolder ⊢
    exact follow_of_folder descends.inside narrow inFolder

section Joined

variable (descends : folder.Descends) (named : IsName name)

include descends named

theorem find?_join_iff {entry : Entry} :
    tree.find? (folder.join ⟨name⟩) = .ok (place, entry) ↔ (folder.join ⟨name⟩).IsSound ∧
      place = (folder.join ⟨name⟩).placeFrom tree.workingFolder ∧
        tree.lookup? place = some entry := by
  rw [find?_eq_ok_iff, locate_join_iff named, placeFrom_join named]
  constructor
  · rintro ⟨⟨above, reached, rfl⟩, found⟩
    obtain ⟨sound, rfl, -⟩ := (reaches_iff descends named).mp reached
    exact ⟨sound, rfl, found⟩
  · rintro ⟨sound, rfl, found⟩
    exact ⟨⟨_, (reaches_iff descends named).mpr ⟨sound, rfl, folder_of_entry found⟩, rfl⟩, found⟩

/-- **A file is read just if it is at the place of its path.** -/
theorem read_join_iff :
    tree.read (folder.join ⟨name⟩) = .ok content ↔ (folder.join ⟨name⟩).IsSound ∧
      ∃ executable, tree.lookup? ((folder.join ⟨name⟩).placeFrom tree.workingFolder) =
        some (.file content executable) := by
  rw [read_eq_ok_iff]
  simp only [find?_join_iff descends named]
  constructor
  · rintro ⟨_, executable, sound, rfl, found⟩
    exact ⟨sound, executable, found⟩
  · rintro ⟨sound, executable, found⟩
    exact ⟨_, executable, sound, rfl, found⟩

theorem isFolder_join_iff :
    tree.isFolder (folder.join ⟨name⟩) = true ↔ (folder.join ⟨name⟩).IsSound ∧
      tree.lookup? ((folder.join ⟨name⟩).placeFrom tree.workingFolder) = some .folder := by
  rw [isFolder_iff]
  simp only [find?_join_iff descends named]
  constructor
  · rintro ⟨_, sound, rfl, found⟩
    exact ⟨sound, found⟩
  · rintro ⟨sound, found⟩
    exact ⟨_, sound, rfl, found⟩

theorem isFile_join_iff :
    tree.isFile (folder.join ⟨name⟩) = true ↔ (folder.join ⟨name⟩).IsSound ∧
      tree.HoldsFile ((folder.join ⟨name⟩).placeFrom tree.workingFolder) := by
  simp only [isFile_iff, find?_join_iff descends named]
  constructor
  · rintro ⟨_, content, executable, sound, rfl, found⟩
    exact ⟨sound, content, executable, found⟩
  · rintro ⟨sound, content, executable, found⟩
    exact ⟨_, content, executable, sound, rfl, found⟩

/-- **A file can be written just if it has a folder and does not take the place of one.** -/
theorem write_join_iff :
    (∃ after, tree.write (folder.join ⟨name⟩) content = .ok after) ↔
      (folder.join ⟨name⟩).IsSound ∧
        tree.lookup? (folder.placeFrom tree.workingFolder) = some .folder ∧
        tree.lookup? ((folder.join ⟨name⟩).placeFrom tree.workingFolder) ≠ some .folder := by
  constructor
  · rintro ⟨after, written⟩
    obtain ⟨slot, given, notFolder, -⟩ := putFile_eq_ok written
    obtain ⟨reached, same⟩ := (slot?_join_iff named).mp given
    obtain ⟨sound, place, inFolder⟩ := (reaches_iff descends named).mp reached
    rw [place] at inFolder
    rw [Slot.place, place, same] at notFolder
    exact ⟨sound, inFolder, placeFrom_join named _ ▸ notFolder⟩
  · rintro ⟨sound, inFolder, notFolder⟩
    have reached := (reaches_iff descends named).mpr ⟨sound, rfl, inFolder⟩
    refine write_join_of_reaches named reached (Bool.eq_false_iff.mpr fun stands => ?_) content
    exact notFolder ((isFolder_join_iff descends named).mp stands).2

end Joined

/-! ### Reading in two trees -/

/-- Both trees give the same content, or none, when the path is read. -/
def SameRead (path : FilePath) (before after : FileTree) : Prop :=
  (before.read path).toOption = (after.read path).toOption

namespace SameRead

variable {between : FileTree}

theorem refl (path : FilePath) (tree : FileTree) : SameRead path tree tree := rfl

theorem symm (same : SameRead path before after) : SameRead path after before := Eq.symm same

theorem trans (first : SameRead path before between) (second : SameRead path between after) :
    SameRead path before after := Eq.trans first second

theorem of_read (first : before.read path = .ok content) (second : after.read path = .ok content) :
    SameRead path before after := by
  rw [SameRead, first, second]

theorem iff_read : SameRead path before after ↔
    ∀ content, before.read path = .ok content ↔ after.read path = .ok content := by
  have given (tree : FileTree) (content : Bytes) :
      (tree.read path).toOption = some content ↔ tree.read path = .ok content := by
    cases tree.read path <;> simp [Except.toOption]
  rw [SameRead, Option.ext_iff]
  simp only [given]

theorem read (same : SameRead path before after) (given : before.read path = .ok content) :
    after.read path = .ok content := (iff_read.mp same content).mp given

theorem hasContent (same : SameRead path before after) :
    before.hasContent path = after.hasContent path := by
  unfold SameRead at same
  unfold FileTree.hasContent
  cases first : before.read path <;> cases second : after.read path <;>
    simp_all [Except.toOption]

theorem readText (same : SameRead path before after) :
    (before.readText path).toOption = (after.readText path).toOption := by
  unfold SameRead at same
  unfold FileTree.readText
  cases first : before.read path <;> cases second : after.read path <;>
    simp_all [Except.toOption, bind, Except.bind]

end SameRead

/-- What is found at the place of a path is what can be read of it. -/
theorem sameRead_of_lookup? (descends : folder.Descends) (named : IsName name)
    (start : after.workingFolder = before.workingFolder)
    (same : after.lookup? ((folder.join ⟨name⟩).placeFrom before.workingFolder) =
      before.lookup? ((folder.join ⟨name⟩).placeFrom before.workingFolder)) :
    SameRead (folder.join ⟨name⟩) before after := by
  refine SameRead.iff_read.mpr fun content => ?_
  rw [read_join_iff descends named, read_join_iff descends named, start, same]

/-- **What is written elsewhere does not matter**, neither to what can be read nor to what cannot. -/
theorem OnlyWrites.sameRead (only : OnlyWrites files before after) (descends : folder.Descends)
    (named : IsName name)
    (outside : (folder.join ⟨name⟩).placeFrom before.workingFolder ∉ files) :
    SameRead (folder.join ⟨name⟩) before after := by
  refine SameRead.iff_read.mpr fun content => ?_
  rw [read_join_iff descends named, read_join_iff descends named, only.workingFolder]
  simp only [only.file outside]

end FileTree

end ApkFeatures
