/-
**What steps leave alone.**

What every part of a step keeps is kept by the whole step, also when one of its parts fails half-way.
So the footprint of a step, the places of the files that it may write and of the folders that it may
make, is found from the footprints of its parts.

* `IsFrame` — a relation that can be kept by one step after the other.
* `Step.Keeps`, `Trial.Keeps` — between the trees before and after a step a relation holds.
* `Step.Keeps.bind`, `Trial.Keeps.bind`, `Step.Keeps.foldlM` — steps made of others.
* `Covers` — what is done to make a file keeps a relation.
* `Writing`, `covers_writing` — only files at some places are written.
* `Touching`, `covers_touching` — and only some folders are made.
-/
import ApkFeatures.Proofs.FileTree.Folders
import ApkFeatures.Proofs.Step

namespace ApkFeatures

open FileTree

variable {α β State : Type} {relation : FileTree → FileTree → Prop}

/-- A relation between the trees before and after a step that steps can keep one after the other. -/
class IsFrame (relation : FileTree → FileTree → Prop) : Prop where
  /-- Nothing has to be done. -/
  refl : ∀ tree, relation tree tree
  /-- Much can be done. -/
  trans : ∀ {before between after}, relation before between → relation between after →
    relation before after

/-- Between the trees before and after a step a relation holds. -/
def Step.Keeps (relation : FileTree → FileTree → Prop) (step : Step α) : Prop :=
  ∀ progress : Progress, relation progress.tree (step progress).2.tree

/-- Between the trees before and after a trial a relation holds, whether it fails or not. -/
def Trial.Keeps (relation : FileTree → FileTree → Prop) (trial : Trial α) : Prop :=
  Step.Keeps relation trial.run

/-- What is done to make a file at a path keeps a relation. -/
structure Covers (relation : FileTree → FileTree → Prop) (path : FilePath) : Prop where
  /-- The folder of the path can be made. -/
  parent : ∀ tree : FileTree, relation tree (tree.createParent path).2
  /-- The file can be written. -/
  file : ∀ {tree after : FileTree} {content}, tree.write path content = .ok after →
    relation tree after

section Frames

variable [IsFrame relation]

namespace Step.Keeps

/-- A step that leaves the files alone keeps every frame. -/
theorem of_tree {step : Step α} (same : ∀ progress, (step progress).2.tree = progress.tree) :
    Step.Keeps relation step := fun progress => by
  rw [same]
  exact IsFrame.refl progress.tree

theorem pure (value : α) : Step.Keeps relation (pure value) := of_tree fun _ => rfl

theorem tell (origin : Origin) (level : Level) (text : String) :
    Step.Keeps relation (Step.tell origin level text) := of_tree fun _ => rfl

theorem tellAll (messages : List Message) : Step.Keeps relation (Step.tellAll messages) :=
  of_tree fun _ => rfl

/-- **One step after the other keeps what both keep.** -/
theorem bind {first : Step α} {next : α → Step β} (keeps : Step.Keeps relation first)
    (later : ∀ value, Step.Keeps relation (next value)) :
    Step.Keeps relation (first >>= next) :=
  fun progress => IsFrame.trans (keeps progress) (later _ _)

/-- **A step for every item of a list keeps what all of them keep.** -/
theorem foldlM {step : State → α → Step State} {items : List α}
    (each : ∀ state, ∀ item ∈ items, Step.Keeps relation (step state item)) :
    ∀ start, Step.Keeps relation (items.foldlM step start) := by
  induction items with
  | nil => exact fun start => .pure start
  | cons item rest ih =>
    intro start
    rw [List.foldlM_cons]
    exact (each start item List.mem_cons_self).bind
      (ih fun state later member => each state later (List.mem_cons_of_mem _ member))

theorem mapM {step : α → Step β} {items : List α}
    (each : ∀ item ∈ items, Step.Keeps relation (step item)) :
    Step.Keeps relation (items.mapM step) := by
  induction items with
  | nil => exact .pure []
  | cons item rest ih =>
    rw [List.mapM_cons]
    exact (each item List.mem_cons_self).bind fun value =>
      (ih fun later member => each later (List.mem_cons_of_mem _ member)).bind fun values =>
        .pure (value :: values)

omit [IsFrame relation] in
/-- A change of the files keeps what the change does. -/
theorem change {action : FileTree → α × FileTree}
    (acts : ∀ tree, relation tree (action tree).2) : Step.Keeps relation (Step.change action) :=
  fun progress => acts progress.tree

omit [IsFrame relation] in
theorem within {step : Step α} (task : Task) (keeps : Step.Keeps relation step) :
    Step.Keeps relation (Step.within task step) :=
  fun progress => keeps { progress with told := [] }

end Step.Keeps

namespace Trial.Keeps

theorem pure (value : α) : Trial.Keeps relation (pure value) := Step.Keeps.pure _

omit [IsFrame relation] in
theorem of {step : Step α} (keeps : Step.Keeps relation step) :
    Trial.Keeps relation (Trial.of step) := keeps

theorem throw (failure : Failure) : Trial.Keeps relation (throw failure : Trial α) :=
  Step.Keeps.pure _

/-- **One trial after the other keeps what both keep**, also if the first one fails. -/
theorem bind {first : Trial α} {next : α → Trial β} (keeps : Trial.Keeps relation first)
    (later : ∀ value, Trial.Keeps relation (next value)) :
    Trial.Keeps relation (first >>= next) := by
  intro progress
  have before := keeps progress
  rw [Trial.run_bind]
  rcases ran : first.run progress with ⟨failure | value, reached⟩
  · rw [ran] at before
    exact before
  · rw [ran] at before
    exact IsFrame.trans before (later value reached)

/-- A trial for every item of a list keeps what all of them keep. -/
theorem filterMapM {trial : α → Trial (Option β)} {items : List α}
    (each : ∀ item ∈ items, Trial.Keeps relation (trial item)) :
    Trial.Keeps relation (items.filterMapM trial) := by
  induction items with
  | nil => exact .pure []
  | cons item rest ih =>
    have others := ih fun later member => each later (List.mem_cons_of_mem item member)
    rw [List.filterMapM_cons]
    refine (each item List.mem_cons_self).bind fun given => ?_
    cases given with
    | none => exact others
    | some value => exact others.bind fun values => .pure (value :: values)

/-- A trial for every item of a list, each from what the last one gives, keeps what all keep. -/
theorem foldlM {trial : State → α → Trial State} {items : List α}
    (each : ∀ state, ∀ item ∈ items, Trial.Keeps relation (trial state item)) :
    ∀ start, Trial.Keeps relation (items.foldlM trial start) := by
  induction items with
  | nil => exact fun start => .pure start
  | cons item rest ih =>
    intro start
    rw [List.foldlM_cons]
    exact (each start item List.mem_cons_self).bind
      (ih fun state later member => each state later (List.mem_cons_of_mem _ member))

theorem settle (attempt? : Option Attempt) (outcome : Except FileTree.Fault α) :
    Trial.Keeps relation (Trial.settle attempt? outcome) := by
  cases outcome with
  | ok value => exact .pure value
  | error fault => exact .throw _

/-- What is asked of the files leaves them alone. -/
theorem ask (attempt? : Option Attempt) (question : FileTree → Except FileTree.Fault α) :
    Trial.Keeps relation (Trial.ask attempt? question) :=
  (Trial.Keeps.of (Step.Keeps.of_tree fun _ => rfl)).bind fun _ => settle attempt? _

/-- A change of the files keeps what the change does. -/
theorem change {action : FileTree → Except FileTree.Fault Unit × FileTree}
    (attempt? : Option Attempt) (acts : ∀ tree, relation tree (action tree).2) :
    Trial.Keeps relation (Trial.change attempt? action) := by
  intro progress
  rw [Trial.run_change]
  exact IsFrame.trans (acts progress.tree) (settle attempt? _ _)

section Files

variable {path : FilePath} (covers : Covers relation path)

include covers

theorem createParent (attempt? : Option Attempt) :
    Trial.Keeps relation (Trial.change attempt? (·.createParent path)) :=
  change attempt? covers.parent

theorem write (attempt? : Option Attempt) (content : Bytes) :
    Trial.Keeps relation (Trial.change attempt? (Step.whole (·.write path content))) := by
  refine change attempt? fun tree => ?_
  rw [Step.whole]
  cases written : tree.write path content with
  | ok after => exact covers.file written
  | error fault => exact IsFrame.refl tree

end Files

end Trial.Keeps

end Frames

/-! ### Files that are written -/

variable {base : Location} {files : List Location} {folder : FilePath} {name : Bytes}

/-- From wherever paths start at a location, only files at some places are written. -/
def Writing (base : Location) (files : List Location) (before after : FileTree) : Prop :=
  before.workingFolder = base → OnlyWrites files before after

instance (base : Location) (files : List Location) : IsFrame (Writing base files) where
  refl tree := fun _ => .refl files tree
  trans first second := fun started =>
    (first started).trans (second ((first started).workingFolder.trans started))

/-- **Making a name in a folder writes that file only.** -/
theorem covers_writing (named : FilePath.IsName name) (base : Location) :
    Covers (Writing base [(folder.join ⟨name⟩).placeFrom base]) (folder.join ⟨name⟩) where
  parent tree := fun _ => (createParent_onlyWrites tree _).mono (List.nil_subset _)
  file written := fun started => started ▸ write_join_onlyWrites named written

/-! ### Folders that are made -/

/-- Only files at some places are written, and only some folders are made. -/
structure Touches (files : List Location) (folders : Location → Prop) (before after : FileTree) :
    Prop where
  /-- Other files stay as they are. -/
  writes : OnlyWrites files before after
  /-- No other folders are made. -/
  makes : OnlyMakes folders before after

/-- From wherever paths start at a location, only files at some places are written and only some
folders are made. -/
def Touching (base : Location) (files : List Location) (folders : Location → Prop)
    (before after : FileTree) : Prop :=
  before.workingFolder = base → Touches files folders before after

instance (base : Location) (files : List Location) (folders : Location → Prop) :
    IsFrame (Touching base files folders) where
  refl tree := fun _ => ⟨.refl files tree, .refl folders tree⟩
  trans first second := fun started =>
    have earlier := first started
    have later := second (earlier.writes.workingFolder.trans started)
    ⟨earlier.writes.trans later.writes, earlier.makes.trans later.makes⟩

/-- **What is found elsewhere stays**, besides folders that are made where nothing was. -/
theorem Touches.lookup? {folders : Location → Prop} {before after : FileTree}
    (touches : Touches files folders before after) (place : Location) :
    after.lookup? place = before.lookup? place ∨
      place ∈ files ∧ before.lookup? place ≠ some .folder ∨
      before.lookup? place = none ∧ after.lookup? place = some .folder ∧ folders place := by
  by_cases member : place ∈ files
  · by_cases stands : before.lookup? place = some .folder
    · exact .inl ((touches.writes.folder stands).trans stands.symm)
    · exact .inr (.inl ⟨member, stands⟩)
  · rcases before.lookup?_cases place with missing | stands | ⟨content, executable, found⟩
    · rcases after.lookup?_cases place with still | made | ⟨content, executable, found⟩
      · exact .inl (still.trans missing.symm)
      · have within := (touches.makes place made).resolve_left (by simp [missing])
        exact .inr (.inr ⟨missing, made, within⟩)
      · have before := (touches.writes.file member).mp found
        cases missing.symm.trans before
    · exact .inl ((touches.writes.folder stands).trans stands.symm)
    · exact .inl (((touches.writes.file member).mpr found).trans found.symm)

/-- **Making a name in a folder writes that file only**, and makes folders on the way only. -/
theorem covers_touching {folders : Location → Prop} (named : FilePath.IsName name)
    (within : ∀ place, folder.Enters base place → folders place)
    (inside : (folder.join ⟨name⟩).placeFrom base ∈ files) :
    Covers (Touching base files folders) (folder.join ⟨name⟩) where
  parent tree := fun started =>
    ⟨(createParent_onlyWrites tree _).mono (List.nil_subset _),
      (createParent_onlyMakes named tree).mono fun place enters =>
        within place (started ▸ enters)⟩
  file written := fun started =>
    ⟨(started ▸ write_join_onlyWrites named written).mono
        (List.cons_subset.mpr ⟨inside, List.nil_subset _⟩),
      write_onlyMakes folders written⟩

end ApkFeatures
