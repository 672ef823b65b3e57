/-
**Trees of files.**

A tree holds files and folders, each at the location given by the names that lead to it. The root is
always a folder, and everything else lies in a folder: the type says so, so `put` asks for a folder
and for a place that is not one, and `erase` takes what is inside with it.

There are no links here, so a place has one location. Of the permissions of a file only the one to
run it is kept: everything can be read and written, and owners and times are left out.

* `lookup?_put`, `lookup?_keep`, `lookup?_erase`, `lookup?_clear` — what is found after a change.
* `mem_names` — the names in a folder are those with an entry.
-/
import ApkFeatures.Text.Utf8

namespace ApkFeatures

/-- The names that lead to an entry, the last one first. -/
abbrev Location := List Bytes

/-- What is found at a location. -/
inductive Entry where
  /-- A file with its content. -/
  | file (content : Bytes) (executable : Bool)
  /-- A folder. -/
  | folder
deriving DecidableEq

/-- The entry found at a location, the root being a folder. -/
def Entry.at? (entries : List (Location × Entry)) : Location → Option Entry
  | [] => some .folder
  | place => entries.lookup place

/-- Files in folders. -/
structure FileTree where
  /-- The entries below the root, in no particular order. -/
  entries : List (Location × Entry)
  /-- The location where relative paths start. -/
  workingFolder : Location
  /-- A location has one entry. -/
  distinct : (entries.map Prod.fst).Nodup
  /-- What has a name lies in a folder. -/
  rooted : ∀ name place, name :: place ∈ entries.map Prod.fst →
    Entry.at? entries place = some .folder

namespace FileTree

/-- The tree with nothing in it. -/
def empty : FileTree where
  entries := []
  workingFolder := []
  distinct := List.nodup_nil
  rooted := fun _ _ member => absurd member List.not_mem_nil

/-- The entry at a location. -/
def lookup? (tree : FileTree) (place : Location) : Option Entry := Entry.at? tree.entries place

/-- The names in a folder, in no particular order. -/
def names (tree : FileTree) (folder : Location) : List Bytes :=
  tree.entries.filterMap fun (place, _) =>
    match place with
    | [] => none
    | name :: above => if above = folder then some name else none

/-! ### Entries of lists -/

theorem at?_root (entries : List (Location × Entry)) : Entry.at? entries [] = some .folder := rfl

theorem at?_cons (entries : List (Location × Entry)) (name : Bytes) (place : Location) :
    Entry.at? entries (name :: place) = entries.lookup (name :: place) := rfl

theorem lookup_isSome {entries : List (Location × Entry)} {place : Location} :
    (entries.lookup place).isSome ↔ place ∈ entries.map Prod.fst := by
  induction entries with
  | nil => simp
  | cons head tail ih =>
    obtain ⟨key, entry⟩ := head
    by_cases same : place = key
    · simp [same]
    · have different : (place == key) = false := by simpa using same
      simp [List.lookup_cons, different, same, ih]

theorem lookup_filter_of_kept {entries : List (Location × Entry)} (kept : Location → Bool)
    {place : Location} (keep : kept place = true) :
    (entries.filter fun entry => kept entry.1).lookup place = entries.lookup place := by
  induction entries with
  | nil => rfl
  | cons head tail ih =>
    obtain ⟨key, entry⟩ := head
    by_cases same : place = key
    · subst same
      simp [keep]
    · have different : (place == key) = false := by simpa using same
      by_cases keyKept : kept key = true
      · simp [keyKept, List.lookup_cons, different, ih]
      · simp [keyKept, List.lookup_cons, different, ih]

theorem lookup_filter_of_dropped {entries : List (Location × Entry)} {kept : Location → Bool}
    {place : Location} (drop : kept place = false) :
    (entries.filter fun entry => kept entry.1).lookup place = none := by
  rw [← Option.not_isSome_iff_eq_none, lookup_isSome]
  intro member
  obtain ⟨pair, inside, same⟩ := List.mem_map.mp member
  have keep := (List.mem_filter.mp inside).2
  rw [same, drop] at keep
  cases keep

theorem nodup_filter {entries : List (Location × Entry)} {kept : Location × Entry → Bool}
    (distinct : (entries.map Prod.fst).Nodup) :
    ((entries.filter kept).map Prod.fst).Nodup :=
  distinct.sublist (List.filter_sublist.map Prod.fst)

/-! ### Changes -/

/-- The tree with another entry in a folder, in the place of a file if there is one. -/
def put (tree : FileTree) (folder : Location) (name : Bytes) (entry : Entry)
    (inFolder : tree.lookup? folder = some .folder)
    (notFolder : tree.lookup? (name :: folder) ≠ some .folder) : FileTree where
  entries := (name :: folder, entry) ::
    tree.entries.filter fun old => !decide (old.1 = name :: folder)
  workingFolder := tree.workingFolder
  distinct := by
    rw [List.map_cons, List.nodup_cons]
    refine ⟨fun member => ?_, nodup_filter tree.distinct⟩
    obtain ⟨pair, inside, same⟩ := List.mem_map.mp member
    simpa [same] using (List.mem_filter.mp inside).2
  rooted := by
    have kept : ∀ place, tree.lookup? place = some .folder → Entry.at?
        ((name :: folder, entry) ::
          tree.entries.filter fun old => !decide (old.1 = name :: folder)) place
        = some .folder := by
      intro place found
      cases place with
      | nil => rfl
      | cons first above =>
        have different : first :: above ≠ name :: folder := fun same =>
          notFolder (same ▸ found)
        have distinguished := beq_eq_false_iff_ne.mpr different
        rw [at?_cons, List.lookup_cons, distinguished]
        exact (lookup_filter_of_kept (fun place => !decide (place = name :: folder))
          (by simp only [different, decide_false, Bool.not_false])).trans found
    intro first above member
    rcases List.mem_cons.mp member with new | old
    · cases new
      exact kept folder inFolder
    · refine kept above (tree.rooted first above ?_)
      obtain ⟨pair, inside, same⟩ := List.mem_map.mp old
      exact List.mem_map.mpr ⟨pair, (List.mem_filter.mp inside).1, same⟩

/-- The tree with some of its locations only; with a location, the folder it lies in is kept. -/
def keep (tree : FileTree) (kept : Location → Bool)
    (upward : ∀ name place, kept (name :: place) = true → kept place = true) : FileTree where
  entries := tree.entries.filter fun old => kept old.1
  workingFolder := tree.workingFolder
  distinct := nodup_filter tree.distinct
  rooted := by
    intro first above member
    obtain ⟨pair, inside, same⟩ := List.mem_map.mp member
    obtain ⟨old, keptPair⟩ := List.mem_filter.mp inside
    have found := tree.rooted first above (List.mem_map.mpr ⟨pair, old, same⟩)
    cases above with
    | nil => rfl
    | cons second rest =>
      exact (lookup_filter_of_kept kept (upward first _ (same ▸ keptPair))).trans found

/-- The tree without an entry and all that lies in it. -/
def erase (tree : FileTree) (place : Location) : FileTree :=
  tree.keep (fun other => !place.isSuffixOf other) fun name above outside => by
    simp only [Bool.not_eq_true', ← Bool.not_eq_true, List.isSuffixOf_iff_suffix] at outside ⊢
    exact fun within => outside (within.trans (List.suffix_cons _ _))

/-- The tree without all that lies in a folder, but with the folder. -/
def clear (tree : FileTree) (folder : Location) : FileTree :=
  tree.keep (fun other => other = folder || !folder.isSuffixOf other) fun name above outside => by
    simp only [Bool.or_eq_true, decide_eq_true_eq, Bool.not_eq_true', ← Bool.not_eq_true,
      List.isSuffixOf_iff_suffix] at outside ⊢
    by_cases within : folder <:+ above
    · rcases outside with same | outside
      · exact absurd within.length_le (by rw [← same, List.length_cons]; omega)
      · exact absurd (within.trans (List.suffix_cons _ _)) outside
    · exact .inr within

/-- The tree seen from another folder. -/
def startingAt (tree : FileTree) (place : Location) : FileTree :=
  { tree with workingFolder := place }

/-! ### What is found after a change -/

/-- **After putting an entry, it is found at its place, and everything else where it was.** -/
theorem lookup?_put (tree : FileTree) (folder : Location) (name : Bytes) (entry : Entry)
    (inFolder : tree.lookup? folder = some .folder)
    (notFolder : tree.lookup? (name :: folder) ≠ some .folder) (place : Location) :
    (tree.put folder name entry inFolder notFolder).lookup? place =
      if place = name :: folder then some entry else tree.lookup? place := by
  cases place with
  | nil => simp [lookup?, at?_root]
  | cons first above =>
    by_cases same : first :: above = name :: folder
    · rw [if_pos same, lookup?, at?_cons, same]
      simp [put]
    · rw [if_neg same, lookup?, at?_cons]
      have different := beq_eq_false_iff_ne.mpr same
      show List.lookup (first :: above) (_ :: _) = _
      rw [List.lookup_cons, different]
      exact lookup_filter_of_kept (fun place => !decide (place = name :: folder))
        (by simp only [same, decide_false, Bool.not_false])

/-- **Of what is kept everything is found where it was, and nothing else.** -/
theorem lookup?_keep (tree : FileTree) (kept : Location → Bool)
    (upward : ∀ name place, kept (name :: place) = true → kept place = true) (place : Location) :
    (tree.keep kept upward).lookup? place =
      if kept place = true ∨ place = [] then tree.lookup? place else none := by
  cases place with
  | nil => simp [lookup?, at?_root]
  | cons first above =>
    by_cases stays : kept (first :: above) = true
    · rw [if_pos (.inl stays)]
      exact lookup_filter_of_kept kept stays
    · rw [if_neg (by simpa using stays)]
      exact lookup_filter_of_dropped (by simpa using stays)

/-- After erasing an entry, nothing is found in it, and everything else where it was. -/
theorem lookup?_erase (tree : FileTree) (place other : Location) :
    (tree.erase place).lookup? other =
      if ¬ place <:+ other ∨ other = [] then tree.lookup? other else none := by
  rw [erase, lookup?_keep]
  simp [← Bool.not_eq_true, List.isSuffixOf_iff_suffix]

/-- After clearing a folder, nothing is found in it, and everything else where it was. -/
theorem lookup?_clear (tree : FileTree) (folder other : Location) :
    (tree.clear folder).lookup? other =
      if other = folder ∨ ¬ folder <:+ other ∨ other = [] then tree.lookup? other else none := by
  rw [clear, lookup?_keep]
  simp [← Bool.not_eq_true, List.isSuffixOf_iff_suffix, or_assoc]

/-- **The names in a folder are those with an entry.** -/
theorem mem_names {tree : FileTree} {folder : Location} {name : Bytes} :
    name ∈ tree.names folder ↔ (tree.lookup? (name :: folder)).isSome := by
  rw [lookup?, at?_cons, lookup_isSome]
  simp only [names, List.mem_filterMap, List.mem_map]
  constructor
  · rintro ⟨⟨place, entry⟩, inside, found⟩
    cases place with
    | nil => cases found
    | cons first above =>
      dsimp only at found
      split at found
      · rename_i same
        cases found
        exact ⟨_, inside, by rw [same]⟩
      · cases found
  · rintro ⟨⟨place, entry⟩, inside, same⟩
    cases same
    exact ⟨_, inside, by simp⟩

end FileTree

end ApkFeatures
