/-
**Other spellings of a path.**

Two paths with the same components are the same path. Inside a path, repeated slashes and single dots
lead nowhere else, since what they are asked of must be a folder anyway. At the end of a path they ask
for a folder where there may be a file. So the same path leads to the same, however it is spelled, as
long as its end is its last name; and with another end no file can be read.

* `FilePath.solids`, `solids_of_components` — the segments that count.
* `FilePath.IsDirect`, `isDirect_of_read` — the spellings of a path that can be those of a file.
* `follow_solids`, `find?_of_components` — where the spellings of a path lead.
-/
import ApkFeatures.Proofs.FileTree.Writing

namespace ApkFeatures

namespace FilePath

variable {path first second : FilePath}

/-- The segment stands for something. -/
def isSolid (segment : Bytes) : Bool := !isFiller segment

/-- The segments of a path that stand for something. -/
def solids (path : FilePath) : List Bytes := path.segments.filter isSolid

/-- The path ends in its last name, and it is not too long. -/
structure IsDirect (path : FilePath) : Prop where
  /-- The last segment stands for something. -/
  solid : path.segments.getLast?.all isSolid = true
  /-- The path is not too long. -/
  short : path.bytes.length ≤ FileTree.longestPath

instance (path : FilePath) : Decidable path.IsDirect :=
  decidable_of_iff (_ ∧ _)
    ⟨fun ⟨solid, short⟩ => ⟨solid, short⟩, fun ⟨solid, short⟩ => ⟨solid, short⟩⟩

/-- The component of a segment that stands for something. -/
def componentOf (segment : Bytes) : Component :=
  if segment = [dot, dot] then .up else .name segment

theorem ofSegment?_eq (segment : Bytes) :
    Component.ofSegment? segment = if isSolid segment then some (componentOf segment) else none := by
  rw [Component.ofSegment?, isSolid, componentOf]
  cases isFiller segment with
  | true => rfl
  | false =>
    show (if segment = [dot, dot] then some Component.up else some (.name segment)) =
      some (if segment = [dot, dot] then .up else .name segment)
    split <;> rfl

theorem componentOf_injective : Function.Injective componentOf := by
  intro segment other same
  unfold componentOf at same
  split at same
  · split at same
    · simp_all
    · cases same
  · split at same
    · cases same
    · exact Component.name.inj same

theorem components_eq (path : FilePath) :
    path.components = path.start?.toList ++ path.solids.map componentOf := by
  rw [components, solids]
  congr 1
  induction path.segments with
  | nil => rfl
  | cons segment rest ih =>
    rw [List.filterMap_cons, ofSegment?_eq, List.filter_cons]
    cases isSolid segment with
    | false => exact ih
    | true => exact congrArg (componentOf segment :: ·) ih

/-- A component that only the beginning of a path can have. -/
def isStart (component : Component) : Bool := component = .root || component = .here

theorem isStart_componentOf (segment : Bytes) : isStart (componentOf segment) = false := by
  rw [componentOf]
  split <;> rfl

theorem isStart_of_start? {component : Component} (start : path.start? = some component) :
    isStart component = true := by
  rw [start?] at start
  split at start
  · cases start
    rfl
  · split at start
    · cases start
      rfl
    · cases start

/-- **The same path has the same segments that count**, and the same start. -/
theorem solids_of_components (same : first.components = second.components) :
    first.start? = second.start? ∧ first.solids = second.solids := by
  have starts (path : FilePath) : path.components.filter isStart = path.start?.toList := by
    rw [components_eq, List.filter_append, List.filter_eq_self.mpr fun component member =>
      isStart_of_start? (Option.mem_toList.mp member), List.filter_eq_nil_iff.mpr, List.append_nil]
    intro component member
    obtain ⟨segment, -, rfl⟩ := List.mem_map.mp member
    rw [isStart_componentOf]
    exact Bool.false_ne_true
  have start : first.start?.toList = second.start?.toList := by
    rw [← starts, same, starts]
  rw [components_eq, components_eq, start, List.append_right_inj] at same
  have startSame : first.start? = second.start? := by
    rw [← @Option.head?_toList _ first.start?, start, Option.head?_toList]
  exact ⟨startSame, (List.map_inj_right fun _ _ => @componentOf_injective _ _).mp same⟩

theorem isAbsolute_iff_start? : path.isAbsolute = true ↔ path.start? = some .root := by
  rw [start?]
  split
  · simp_all
  · split <;> simp_all

theorem origin_of_components (same : first.components = second.components) (base : Location) :
    first.origin base = second.origin base := by
  have absolute : first.isAbsolute = second.isAbsolute := by
    rw [Bool.eq_iff_iff, isAbsolute_iff_start?, isAbsolute_iff_start?, (solids_of_components same).1]
  rw [origin, absolute, origin]

/-- What is written in a path stands in its segments, besides the slashes. -/
theorem mem_bytes_iff {byte : UInt8} (inner : byte ≠ slash) :
    byte ∈ path.bytes ↔ ∃ segment ∈ path.segments, byte ∈ segment := by
  obtain ⟨bytes⟩ := path
  show byte ∈ bytes ↔ ∃ segment ∈ bytes.splitOn slash, byte ∈ segment
  induction bytes with
  | nil => simp
  | cons first others ih =>
    rw [List.splitOn_cons_eq_if_modifyHead, List.mem_cons, ih]
    obtain ⟨head, tail, pieces⟩ := List.exists_cons_of_ne_nil (List.splitOn_ne_nil slash others)
    rw [pieces]
    by_cases isSlash : (first == slash) = true
    · have apart : byte ≠ first := fun same => inner (same.trans (beq_iff_eq.mp isSlash))
      rw [if_pos isSlash]
      simp [apart]
    · rw [if_neg isSlash, List.modifyHead_cons]
      simp [or_assoc]

/-- A byte that is in no segment that stands for nothing. -/
theorem mem_bytes_iff_solids {byte : UInt8} (inner : byte ≠ slash) (solid : byte ≠ dot) :
    byte ∈ path.bytes ↔ ∃ segment ∈ path.solids, byte ∈ segment := by
  rw [mem_bytes_iff inner]
  refine exists_congr fun segment => ?_
  rw [solids, List.mem_filter]
  refine ⟨fun ⟨member, inside⟩ => ⟨⟨member, ?_⟩, inside⟩, fun ⟨member, inside⟩ => ⟨member.1, inside⟩⟩
  rw [isSolid, Bool.not_eq_true', ← Bool.not_eq_true]
  intro filler
  rcases Bool.or_eq_true_iff.mp filler with empty | single
  · rw [of_decide_eq_true empty] at inside
    cases inside
  · rw [of_decide_eq_true single, List.mem_singleton] at inside
    exact solid inside

end FilePath

namespace FileTree

open FilePath

variable {tree : FileTree} {path first second : FilePath} {place : Location}

/-- A segment that stands for nothing can be left out before another one. -/
theorem follow_filler {filler segment : Bytes} (filling : isFiller filler = true)
    (rest : List Bytes) :
    tree.follow place (filler :: segment :: rest) = tree.follow place (segment :: rest) := by
  show (tree.enter place filler >>= fun next => tree.follow next (segment :: rest)) =
    tree.follow place (segment :: rest)
  have again : tree.follow place (segment :: rest) =
      tree.enter place segment >>= fun next => tree.follow next rest := rfl
  cases found : tree.lookup? place with
  | none => simp only [again, enter, found, bind, Except.bind]
  | some entry =>
    cases entry with
    | file content executable => simp only [again, enter, found, bind, Except.bind]
    | folder =>
      have stays : tree.enter place filler = .ok place := by
        rw [enter, found]
        exact if_pos filling
      rw [stays]
      rfl

/-- **Where a path leads is told by the segments that count**, if the last one does. -/
theorem follow_solids {segments : List Bytes} (last : segments.getLast?.all isSolid = true) :
    tree.follow place segments = tree.follow place (segments.filter isSolid) := by
  induction segments generalizing place with
  | nil => rfl
  | cons segment rest ih =>
    cases rest with
    | nil =>
      have solid : isSolid segment = true := last
      rw [List.filter_cons_of_pos solid, List.filter_nil]
    | cons next others =>
      rw [List.getLast?_cons_cons] at last
      by_cases solid : isSolid segment = true
      · rw [List.filter_cons_of_pos solid, follow, follow, List.foldlM_cons, List.foldlM_cons]
        exact bind_congr fun further => ih last
      · have filling : isFiller segment = true := by simpa [isSolid] using solid
        rw [follow_filler filling, List.filter_cons_of_neg solid]
        exact ih last

theorem start_of_components (same : first.components = second.components)
    (direct : first.IsDirect) (direct' : second.IsDirect) :
    tree.start first = tree.start second := by
  have written {path : FilePath} (direct : path.IsDirect) : path.bytes.isEmpty = false := by
    refine Bool.eq_false_iff.mpr fun empty => ?_
    have solid := direct.solid
    rw [segments, List.isEmpty_iff.mp empty] at solid
    exact absurd solid (by decide)
  have zero : first.bytes.contains 0 = second.bytes.contains 0 := by
    rw [Bool.eq_iff_iff, List.contains_iff_mem, List.contains_iff_mem,
      mem_bytes_iff_solids (by decide) (by decide), mem_bytes_iff_solids (by decide) (by decide),
      (solids_of_components same).2]
  have origin := origin_of_components same tree.workingFolder
  rw [FilePath.origin, FilePath.origin] at origin
  rw [start, start, zero, written direct, written direct', if_neg (Nat.not_lt.mpr direct.short),
    if_neg (Nat.not_lt.mpr direct'.short), origin]

/-- **The spellings of a path lead to the same**, if they can be those of a file. -/
theorem find?_of_components (same : first.components = second.components)
    (direct : first.IsDirect) (direct' : second.IsDirect) :
    tree.find? first = tree.find? second := by
  have located : tree.locate first = tree.locate second := by
    rw [locate, locate, start_of_components same direct direct']
    refine bind_congr fun place => ?_
    rw [follow_solids direct.solid, follow_solids direct'.solid]
    exact congrArg _ (solids_of_components same).2
  rw [find?, located, find?]

/-- **Only a path that ends in its last name can be read.** -/
theorem isDirect_of_read {content : Bytes} (given : tree.read path = .ok content) :
    path.IsDirect := by
  obtain ⟨place, executable, found⟩ := read_eq_ok_iff.mp given
  obtain ⟨located, there⟩ := find?_eq_ok_iff.mp found
  obtain ⟨usable, followed⟩ := locate_eq_ok_iff.mp located
  refine ⟨?_, usable.short⟩
  rcases List.eq_nil_or_concat path.segments with none | ⟨front, last, whole⟩
  · rw [none]
    rfl
  · rw [List.concat_eq_append] at whole
    rw [whole, List.getLast?_concat, Option.all_some, isSolid, Bool.not_eq_true',
      ← Bool.not_eq_true]
    intro filling
    rw [whole, follow_append] at followed
    obtain ⟨between, -, ended⟩ := followed
    obtain ⟨inFolder, -, done⟩ := follow_cons.mp ended
    rw [lead_filler filling, follow_nil] at done
    rw [← done, inFolder] at there
    cases there

end FileTree

end ApkFeatures
