/-
**Where paths lead.**

Segments are followed from folder to folder, so where they lead is told by the segments alone, as
long as there are folders all the way. A name joined to the path of a folder leads to the name in
the folder, whether there is something of that name or not.

* `enter_eq_ok_iff`, `follow_append`, `follow_place` — following segments.
* `locate_eq_ok_iff`, `slot?_eq_some_iff`, `find?_eq_ok_iff` — what a path leads to.
* `Opens`, `Reaches` — a path that leads into a folder, and a name in it.
* `locate_join_iff`, `slot?_join_iff` — the path of a name in a folder.
-/
import ApkFeatures.FileTree.Access
import ApkFeatures.Proofs.Fallible
import ApkFeatures.Proofs.FilePath
import ApkFeatures.Proofs.Text.Utf8

namespace ApkFeatures

namespace FilePath

/-- Bytes that can be the path of something. -/
structure IsUsable (path : FilePath) : Prop where
  /-- There is no zero byte in it. -/
  unbroken : (0 : UInt8) ∉ path.bytes
  /-- It is not empty. -/
  written : path.bytes ≠ []
  /-- It is not too long. -/
  short : path.bytes.length ≤ FileTree.longestPath

/-- Where a path starts. -/
def origin (path : FilePath) (base : Location) : Location := if path.isAbsolute then [] else base

/-- Where a segment leads from a folder. -/
def lead (place : Location) (segment : Bytes) : Location :=
  if isFiller segment then place
  else if segment = [dot, dot] then place.tail
  else segment :: place

/-- Where a path leads if there are folders all the way. -/
def placeFrom (path : FilePath) (base : Location) : Location :=
  path.segments.foldl lead (path.origin base)

theorem lead_filler {place : Location} {segment : Bytes} (filling : isFiller segment = true) :
    lead place segment = place := if_pos filling

theorem lead_name {place : Location} {name : Bytes} (named : IsName name) :
    lead place name = name :: place := by
  rw [lead, named.solid, if_neg Bool.false_ne_true, if_neg named.inner]

theorem foldl_lead_inside (folder : FilePath) (start : Location) :
    folder.inside.foldl lead start = folder.segments.foldl lead start := by
  rcases segments_eq_inside folder with same | slashed
  · rw [same]
  · rw [slashed, List.foldl_append]
    exact (@lead_filler _ [] rfl).symm

theorem origin_join {folder : FilePath} {name : Bytes} (unslashed : slash ∉ name)
    (base : Location) : (folder.join ⟨name⟩).origin base = folder.origin base := by
  rw [origin, isAbsolute_join unslashed, origin]

/-- **A name in a folder is one step below the folder.** -/
theorem placeFrom_join {folder : FilePath} {name : Bytes} (named : IsName name) (base : Location) :
    (folder.join ⟨name⟩).placeFrom base = name :: folder.placeFrom base := by
  rw [placeFrom, origin_join named.unslashed, segments_join named.unslashed, List.foldl_append,
    foldl_lead_inside]
  exact lead_name named

end FilePath

namespace FileTree

open FilePath

variable {tree : FileTree} {place next : Location}

theorem folder_root : FileTree.empty.lookup? [] = some .folder := rfl

/-! ### Segments -/

theorem enter_folder (inFolder : tree.lookup? place = some .folder) (segment : Bytes) :
    tree.enter place segment =
      if segment.length ≤ longestName then .ok (lead place segment) else .error .nameTooLong := by
  rw [enter, inFolder]
  by_cases filling : isFiller segment = true
  · have short : segment.length ≤ longestName := by
      rcases Bool.or_eq_true_iff.mp filling with empty | single
      · rw [of_decide_eq_true empty]
        exact Nat.zero_le _
      · rw [of_decide_eq_true single]
        exact Nat.le_of_ble_eq_true rfl
    rw [if_pos short, lead_filler filling]
    exact if_pos filling
  · by_cases up : segment = [dot, dot]
    · subst up
      rfl
    · have upward : isUp segment = false := decide_eq_false up
      simp only [filling, upward, lead, up, if_false]
      by_cases short : segment.length ≤ longestName
      · rw [if_pos short, if_neg (Nat.not_lt.mpr short)]
        rfl
      · rw [if_neg short, if_pos (Nat.lt_of_not_le short)]
        rfl

theorem enter_eq_ok_iff {segment : Bytes} :
    tree.enter place segment = .ok next ↔
      tree.lookup? place = some .folder ∧ segment.length ≤ longestName ∧
        lead place segment = next := by
  by_cases inFolder : tree.lookup? place = some .folder
  · rw [enter_folder inFolder]
    by_cases short : segment.length ≤ longestName
    · simp only [inFolder, short, if_true, true_and, Except.ok.injEq]
    · simp only [short, if_false, false_and, and_false, reduceCtorEq]
  · refine ⟨fun entered => ?_, fun found => absurd found.1 inFolder⟩
    rw [enter] at entered
    rcases found : tree.lookup? place with _ | ⟨content, executable⟩ | _
    · rw [found] at entered
      cases entered
    · rw [found] at entered
      cases entered
    · exact absurd found inFolder

theorem follow_append {front rest : List Bytes} :
    tree.follow place (front ++ rest) = .ok next ↔
      ∃ between, tree.follow place front = .ok between ∧ tree.follow between rest = .ok next := by
  rw [follow, List.foldlM_append]
  exact Fallible.bind_eq_ok_iff

theorem follow_cons {segment : Bytes} {rest : List Bytes} :
    tree.follow place (segment :: rest) = .ok next ↔
      tree.lookup? place = some .folder ∧ segment.length ≤ longestName ∧
        tree.follow (lead place segment) rest = .ok next := by
  rw [follow, List.foldlM_cons]
  refine Fallible.bind_eq_ok_iff.trans ⟨?_, ?_⟩
  · rintro ⟨between, entered, followed⟩
    obtain ⟨inFolder, short, rfl⟩ := enter_eq_ok_iff.mp entered
    exact ⟨inFolder, short, followed⟩
  · rintro ⟨inFolder, short, followed⟩
    exact ⟨_, enter_eq_ok_iff.mpr ⟨inFolder, short, rfl⟩, followed⟩

theorem follow_nil : tree.follow place [] = .ok next ↔ place = next := by
  refine ⟨fun same => ?_, fun same => same ▸ rfl⟩
  cases same
  rfl

/-- Segments lead where they say. -/
theorem follow_place {segments : List Bytes} (followed : tree.follow place segments = .ok next) :
    next = segments.foldl lead place := by
  induction segments generalizing place with
  | nil => exact (follow_nil.mp followed).symm
  | cons segment rest ih => exact ih (follow_cons.mp followed).2.2

/-- Whatever is followed further is a folder. -/
theorem folder_of_follow {segments : List Bytes} (more : segments ≠ [])
    (followed : tree.follow place segments = .ok next) : tree.lookup? place = some .folder := by
  obtain ⟨segment, rest, rfl⟩ := List.exists_cons_of_ne_nil more
  exact (follow_cons.mp followed).1

/-- **Where there are the same folders, segments lead to the same.** -/
theorem follow_of_folders {other : FileTree} {segments : List Bytes}
    (folders : ∀ {place}, tree.lookup? place = some .folder → other.lookup? place = some .folder)
    (followed : tree.follow place segments = .ok next) : other.follow place segments = .ok next := by
  induction segments generalizing place with
  | nil => exact followed
  | cons segment rest ih =>
    obtain ⟨inFolder, short, later⟩ := follow_cons.mp followed
    exact follow_cons.mpr ⟨folders inFolder, short, ih later⟩

/-- In a folder, segments that stand for nothing lead nowhere else. -/
theorem follow_fillers {fillers : List Bytes} (inFolder : tree.lookup? place = some .folder)
    (filling : ∀ filler ∈ fillers, isFiller filler = true) :
    tree.follow place fillers = .ok next ↔ place = next := by
  induction fillers with
  | nil => exact follow_nil
  | cons filler rest ih =>
    have first := filling filler List.mem_cons_self
    have entered : tree.enter place filler = .ok place := by
      rw [enter, inFolder]
      exact if_pos first
    rw [follow_cons, lead_filler first, ih fun later member =>
      filling later (List.mem_cons_of_mem _ member)]
    exact ⟨fun found => found.2.2, fun same => ⟨inFolder, (enter_eq_ok_iff.mp entered).2.1, same⟩⟩

/-! ### Paths -/

theorem start_eq_ok_iff {path : FilePath} :
    tree.start path = .ok place ↔ path.IsUsable ∧ path.origin tree.workingFolder = place := by
  rw [start]
  by_cases broken : path.bytes.contains 0 = true
  · rw [if_pos broken]
    refine ⟨fun failed => (nomatch failed), fun found => ?_⟩
    exact absurd (List.contains_iff_mem.mp broken) found.1.unbroken
  · by_cases empty : path.bytes.isEmpty = true
    · rw [if_neg broken, if_pos empty]
      refine ⟨fun failed => (nomatch failed), fun found => ?_⟩
      exact absurd (List.isEmpty_iff.mp empty) found.1.written
    · by_cases long : longestPath < path.bytes.length
      · rw [if_neg broken, if_neg empty, if_pos long]
        refine ⟨fun failed => (nomatch failed), fun found => ?_⟩
        exact absurd found.1.short (Nat.not_le.mpr long)
      · rw [if_neg broken, if_neg empty, if_neg long, Except.ok.injEq]
        exact ⟨fun same => ⟨⟨fun member => broken (List.contains_iff_mem.mpr member),
          fun none => empty (List.isEmpty_iff.mpr none), Nat.le_of_not_lt long⟩, same⟩,
          fun found => found.2⟩

theorem locate_eq_ok_iff {path : FilePath} :
    tree.locate path = .ok place ↔
      path.IsUsable ∧ tree.follow (path.origin tree.workingFolder) path.segments = .ok place := by
  refine Fallible.bind_eq_ok_iff.trans ⟨?_, ?_⟩
  · rintro ⟨start, started, followed⟩
    obtain ⟨usable, rfl⟩ := start_eq_ok_iff.mp started
    exact ⟨usable, followed⟩
  · rintro ⟨usable, followed⟩
    exact ⟨_, start_eq_ok_iff.mpr ⟨usable, rfl⟩, followed⟩

/-- A path leads where it says. -/
theorem locate_place {path : FilePath} (located : tree.locate path = .ok place) :
    place = path.placeFrom tree.workingFolder :=
  follow_place (locate_eq_ok_iff.mp located).2

theorem find?_eq_ok_iff {path : FilePath} {entry : Entry} :
    tree.find? path = .ok (place, entry) ↔
      tree.locate path = .ok place ∧ tree.lookup? place = some entry := by
  refine Fallible.bind_eq_ok_iff.trans ⟨?_, ?_⟩
  · rintro ⟨reached, located, found⟩
    cases entryThere : tree.lookup? reached with
    | none =>
      rw [entryThere] at found
      cases found
    | some there =>
      rw [entryThere] at found
      cases found
      exact ⟨located, entryThere⟩
  · rintro ⟨located, found⟩
    exact ⟨place, located, by rw [found]⟩

theorem read_eq_ok_iff {path : FilePath} {content : Bytes} :
    tree.read path = .ok content ↔
      ∃ place executable, tree.find? path = .ok (place, .file content executable) := by
  refine Fallible.bind_eq_ok_iff.trans ⟨?_, ?_⟩
  · rintro ⟨⟨place, entry⟩, found, given⟩
    cases entry with
    | file other executable =>
      cases given
      exact ⟨place, executable, found⟩
    | folder => cases given
  · rintro ⟨place, executable, found⟩
    exact ⟨_, found, rfl⟩

/-- A text is read just of its bytes. -/
theorem readText_eq_ok_iff {path : FilePath} {content : String} :
    tree.readText path = .ok content ↔ tree.read path = .ok (Text.encode content) := by
  refine Fallible.bind_eq_ok_iff.trans ⟨?_, fun read => ⟨_, read, ?_⟩⟩
  · rintro ⟨bytes, read, given⟩
    cases decoded : Text.decode? bytes with
    | none =>
      rw [decoded] at given
      cases given
    | some text =>
      rw [decoded] at given
      cases given
      rw [read, Text.encode_of_decode? decoded]
  · rw [Text.decode?_encode]

theorem isFolder_iff {path : FilePath} :
    tree.isFolder path = true ↔ ∃ place, tree.find? path = .ok (place, .folder) := by
  rw [isFolder]
  rcases tree.find? path with fault | ⟨place, ⟨content, executable⟩ | _⟩ <;> simp

theorem isFile_iff {path : FilePath} : tree.isFile path = true ↔
    ∃ place content executable, tree.find? path = .ok (place, .file content executable) := by
  rw [isFile]
  rcases tree.find? path with fault | ⟨place, ⟨content, executable⟩ | _⟩ <;> simp

theorem contains_iff {path : FilePath} :
    tree.contains path = true ↔ ∃ place entry, tree.find? path = .ok (place, entry) := by
  rw [contains]
  rcases tree.find? path with fault | ⟨place, entry⟩ <;> simp [Except.toOption]

/-- What can be read is no folder. -/
theorem isFolder_of_read {path : FilePath} {content : Bytes}
    (given : tree.read path = .ok content) : tree.isFolder path = false := by
  obtain ⟨place, executable, found⟩ := read_eq_ok_iff.mp given
  rw [isFolder, found]

/-- In a folder that can be reached, the last segment of a path is what counts. -/
theorem slot?_of_folder {path : FilePath} (usable : path.IsUsable)
    (followed : tree.follow (path.origin tree.workingFolder) (steps path).dropLast = .ok place)
    (inFolder : tree.lookup? place = some .folder) :
    tree.slot? path =
      match (steps path).getLast? with
      | none => .ok none
      | some name =>
        if isFiller name || isUp name then .ok none
        else if longestName < name.length then .error .nameTooLong
        else .ok (some ⟨place, name, inFolder⟩) := by
  have started := start_eq_ok_iff.mpr ⟨usable, @rfl _ (path.origin tree.workingFolder)⟩
  rw [slot?, started]
  simp only [bind, Except.bind, followed]
  split
  · rename_i missing
    cases missing.symm.trans inFolder
  · rename_i file
    cases file.symm.trans inFolder
  · rfl

/-- **What a path gives a name to**: its last segment, in the folder to which the others lead. -/
theorem slot?_eq_some_iff {path : FilePath} {slot : Slot tree} :
    tree.slot? path = .ok (some slot) ↔
      path.IsUsable ∧
        tree.follow (path.origin tree.workingFolder) (steps path).dropLast = .ok slot.folder ∧
        (steps path).getLast? = some slot.name ∧ isFiller slot.name = false ∧
        isUp slot.name = false ∧ slot.name.length ≤ longestName := by
  constructor
  · intro found
    obtain ⟨start, started, rest⟩ := Fallible.bind_eq_ok_iff.mp found
    obtain ⟨usable, rfl⟩ := start_eq_ok_iff.mp started
    obtain ⟨folder, followed, rest⟩ := Fallible.bind_eq_ok_iff.mp rest
    split at rest
    · cases rest
    · cases rest
    · rename_i inFolder
      cases last : (steps path).getLast? with
      | none =>
        rw [last] at rest
        cases rest
      | some name =>
        simp only [last] at rest
        by_cases dots : (isFiller name || isUp name) = true
        · rw [if_pos dots] at rest
          cases rest
        · by_cases long : longestName < name.length
          · rw [if_neg dots, if_pos long] at rest
            cases rest
          · rw [if_neg dots, if_neg long] at rest
            cases rest
            obtain ⟨solid, inner⟩ := Bool.or_eq_false_iff.mp (Bool.not_eq_true _ ▸ dots)
            exact ⟨usable, followed, rfl, solid, inner, Nat.le_of_not_lt long⟩
  · obtain ⟨folder, name, inFolder⟩ := slot
    rintro ⟨usable, followed, last, solid, inner, short⟩
    rw [slot?_of_folder usable followed inFolder, last]
    simp only [solid, inner, Bool.or_self, Nat.not_lt.mpr short, if_false, Bool.false_eq_true]

/-! ### Names in folders -/

/-- The path leads into a folder. -/
structure Opens (tree : FileTree) (folder : FilePath) (place : Location) : Prop where
  /-- There are folders all the way. -/
  followed : tree.follow (folder.origin tree.workingFolder) folder.segments = .ok place
  /-- At its end there is a folder too. -/
  inFolder : tree.lookup? place = some .folder

theorem opens_iff {folder : FilePath} :
    tree.Opens folder place ↔
      tree.follow (folder.origin tree.workingFolder) folder.inside = .ok place ∧
        tree.lookup? place = some .folder := by
  have toInside (inFolder : tree.lookup? place = some .folder) :
      tree.follow (folder.origin tree.workingFolder) folder.segments = .ok place ↔
        tree.follow (folder.origin tree.workingFolder) folder.inside = .ok place := by
    rcases segments_eq_inside folder with same | slashed
    · rw [same]
    · rw [slashed, follow_append]
      constructor
      · rintro ⟨between, followed, filled⟩
        have same := follow_place filled
        exact same.trans (@lead_filler between [] rfl) ▸ followed
      · exact fun followed => ⟨place, followed, (follow_fillers inFolder
          fun filler member => by rw [List.mem_singleton.mp member]; rfl).mpr rfl⟩
  exact ⟨fun opens => ⟨(toInside opens.inFolder).mp opens.followed, opens.inFolder⟩,
    fun ⟨followed, inFolder⟩ => ⟨(toInside inFolder).mpr followed, inFolder⟩⟩

theorem Opens.place_eq {folder : FilePath} (opens : tree.Opens folder place) :
    place = folder.placeFrom tree.workingFolder := follow_place opens.followed

/-- The path of a name in a folder can be used, and it leads into the folder. -/
structure Reaches (tree : FileTree) (folder : FilePath) (name : Bytes) (place : Location) :
    Prop where
  /-- The path can be used. -/
  usable : (folder.join ⟨name⟩).IsUsable
  /-- The folder is one. -/
  opens : tree.Opens folder place
  /-- The name is not too long. -/
  short : name.length ≤ longestName

section Joined

variable {folder : FilePath} {name : Bytes}

/-- **The path of a name in a folder leads to the name in the folder.** -/
theorem locate_join_iff (named : IsName name) :
    tree.locate (folder.join ⟨name⟩) = .ok next ↔
      ∃ place, tree.Reaches folder name place ∧ next = name :: place := by
  rw [locate_eq_ok_iff, segments_join named.unslashed, origin_join named.unslashed, follow_append]
  constructor
  · rintro ⟨usable, place, followed, last⟩
    obtain ⟨inFolder, short, done⟩ := follow_cons.mp last
    exact ⟨place, ⟨usable, opens_iff.mpr ⟨followed, inFolder⟩, short⟩,
      (follow_nil.mp done).symm.trans (lead_name named)⟩
  · rintro ⟨place, reaches, rfl⟩
    obtain ⟨followed, inFolder⟩ := opens_iff.mp reaches.opens
    exact ⟨reaches.usable, place, followed, follow_cons.mpr ⟨inFolder, reaches.short,
      follow_nil.mpr (lead_name named)⟩⟩

theorem steps_join (named : IsName name) :
    steps (folder.join ⟨name⟩) = folder.inside ++ [name] := by
  have solid : ¬ name.isEmpty = true := by
    rw [List.isEmpty_iff]
    exact named.ne_nil
  rw [steps, segments_join named.unslashed, List.reverse_concat,
    List.dropWhile_cons_of_neg solid, List.reverse_cons, List.reverse_reverse]

/-- **A path gives its last name to something in the folder.** -/
theorem slot?_join_iff (named : IsName name) {slot : Slot tree} :
    tree.slot? (folder.join ⟨name⟩) = .ok (some slot) ↔
      tree.Reaches folder name slot.folder ∧ slot.name = name := by
  rw [slot?_eq_some_iff, steps_join named, List.dropLast_concat, List.getLast?_concat,
    origin_join named.unslashed]
  constructor
  · rintro ⟨usable, followed, last, -, -, short⟩
    have same := (Option.some.inj last).symm
    exact ⟨⟨usable, opens_iff.mpr ⟨followed, slot.inFolder⟩, same ▸ short⟩, same⟩
  · rintro ⟨reaches, same⟩
    refine ⟨reaches.usable, (opens_iff.mp reaches.opens).1, congrArg some same.symm, ?_⟩
    rw [same]
    exact ⟨named.solid, decide_eq_false named.inner, reaches.short⟩

theorem isSlashed_join (named : IsName name) : isSlashed (folder.join ⟨name⟩) = false := by
  obtain ⟨front, written⟩ := join_bytes folder
  refine decide_eq_false fun slashed => ?_
  rw [written named.unslashed, List.getLast?_append, List.getLast?_eq_some_getLast named.ne_nil,
    Option.some_or] at slashed
  exact named.unslashed (Option.some.inj slashed ▸ List.getLast_mem named.ne_nil)

end Joined

end FileTree

end ApkFeatures
