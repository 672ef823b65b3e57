/-
**What the work on an application depends on.**

Without tools, whether a table can be written is decided by what stands in the way of its folder and
in its own place, and what is in it by the artifact. So from trees that agree about these, the work
on an application gives the same outcomes and leaves trees that agree again; and work that writes
elsewhere keeps the agreement.

* `Way`, `SameRoom` — the folders of the tables, and trees in which the same can be made there.
* `Alike` — trees that agree about some applications and families.
* `Alike.of_touches` — what is written elsewhere does not matter.
* `saveTable_agree`, `Alike.decides` — the same is done in trees that are alike.
-/
import ApkFeatures.Proofs.Analysis.Tables

namespace ApkFeatures

open FilePath FileTree

namespace Settings

variable {settings : Settings} {base place : Location} {family : Family} {name : String}

/-- No folder of the settings has a step to the folder above. -/
structure Descends (settings : Settings) : Prop where
  results : settings.resultsFolder.Descends
  manifests : settings.manifestsFolder.Descends
  callGraphs : settings.callGraphsFolder.Descends

/-- Something the paths of the tables go through: the folders of the families and those above. -/
def Way (settings : Settings) (base place : Location) : Prop :=
  ∃ family, (settings.familyFolder family).Passes base place

/-- Something the paths of the tables enter: the folders of the families and those on the way. -/
def Entered (settings : Settings) (base place : Location) : Prop :=
  ∃ family, (settings.familyFolder family).Enters base place

theorem Descends.familyFolder (descends : settings.Descends) (family : Family) :
    (settings.familyFolder family).Descends := descends.results.join family.isName_folderName

theorem origin_familyFolder (settings : Settings) (family : Family) (base : Location) :
    (settings.familyFolder family).origin base = settings.resultsFolder.origin base :=
  origin_join family.isName_folderName.unslashed base

theorem familyPlace :
    (settings.familyFolder family).placeFrom base =
      Text.encode family.folderName :: settings.resultsFolder.placeFrom base := by
  rw [Settings.familyFolder, child, ofString, placeFrom_join family.isName_folderName]

/-- The folder of a family lies below where its path starts. -/
theorem Descends.elsewhere (descends : settings.Descends) (family : Family) (base : Location) :
    (settings.familyFolder family).placeFrom base ≠
      (settings.familyFolder family).origin base := by
  have below := (descends.results.origin_suffix base).length_le
  intro same
  have lengths := congrArg List.length same
  rw [familyPlace, origin_familyFolder, List.length_cons] at lengths
  omega

/-- The way to the results is a part of the way to any table. -/
theorem entered_of_results (enters : settings.resultsFolder.Enters base place) :
    settings.Entered base place :=
  ⟨.permissions, enters.join (Family.isName_folderName .permissions)⟩

theorem Entered.way (entered : settings.Entered base place) (descends : settings.Descends) :
    settings.Way base place := by
  obtain ⟨family, enters⟩ := entered
  exact ⟨family, enters.passes (descends.familyFolder family)⟩

theorem length_of_way (way : settings.Way base place) :
    place.length ≤ (settings.resultsFolder.placeFrom base).length + 1 := by
  obtain ⟨family, passes⟩ := way
  have length := passes.above.length_le
  rwa [familyPlace, List.length_cons] at length

theorem not_way_of_table (plain : IsPlain name) :
    ¬ settings.Way base ((settings.tableFile family name).placeFrom base) := fun way => by
  have length := length_of_way way
  rw [tablePlace plain, List.length_cons, List.length_cons] at length
  omega

/-- In the folder of the results, only the folders of the families are on the way. -/
theorem not_way_of_name {bytes : Bytes}
    (other : ∀ family : Family, bytes ≠ Text.encode family.folderName) :
    ¬ settings.Way base (bytes :: settings.resultsFolder.placeFrom base) := by
  rintro ⟨family, passes⟩
  have above := passes.above
  rw [familyPlace] at above
  exact other family (List.cons.inj (above.eq_of_length rfl)).1

theorem not_way_of_dataset :
    ¬ settings.Way base ((settings.datasetFile family).placeFrom base) := by
  rw [datasetPlace]
  refine not_way_of_name fun other => ?_
  cases family <;> cases other <;> decide

theorem not_way_of_report : ¬ settings.Way base (settings.reportFile.placeFrom base) := by
  rw [reportPlace]
  refine not_way_of_name fun other => ?_
  cases other <;> decide

/-! ### Places of artifacts -/

/-- The folder of the artifacts that are read for a family. -/
def artifactFolder (settings : Settings) : Family → FilePath
  | .permissions | .intents => settings.manifestsFolder
  | .sensitiveApis => settings.callGraphsFolder

/-- What follows the name of an application in the names of its artifacts. -/
def artifactEnding : Family → String
  | .permissions | .intents => "_AndroidManifest.xml"
  | .sensitiveApis => "_callgraph.gml"

theorem artifactFile_eq (settings : Settings) (family : Family) (name : String) :
    settings.artifactFile family name =
      (settings.artifactFolder family).join ⟨Text.encode (name ++ artifactEnding family)⟩ := by
  cases family <;> rfl

theorem Descends.artifactFolder (descends : settings.Descends) (family : Family) :
    (settings.artifactFolder family).Descends := by
  cases family
  · exact descends.manifests
  · exact descends.manifests
  · exact descends.callGraphs

theorem isName_artifactName (plain : IsPlain name) (family : Family) :
    IsName (Text.encode (name ++ artifactEnding family)) :=
  isName_append plain (by cases family <;> decide) (by cases family <;> decide)

/-- The place of an artifact: its name, in its folder. -/
theorem artifactPlace (plain : IsPlain name) (family : Family) :
    (settings.artifactFile family name).placeFrom base =
      Text.encode (name ++ artifactEnding family) ::
        (settings.artifactFolder family).placeFrom base := by
  rw [artifactFile_eq, placeFrom_join (isName_artifactName plain family)]

/-- **Artifacts of different applications lie at different places.** -/
theorem name_of_artifactPlace {another : String} {second : Family} (plain : IsPlain name)
    (plainOther : IsPlain another)
    (same : (settings.artifactFile family name).placeFrom base =
      (settings.artifactFile second another).placeFrom base) : name = another := by
  rw [artifactPlace plain, artifactPlace plainOther] at same
  have names := (List.cons.inj same).1
  rw [Text.encode_append, Text.encode_append] at names
  by_cases endings : artifactEnding family = artifactEnding second
  · rw [endings, List.append_cancel_right_eq] at names
    exact Text.encode_inj.mp names
  · -- The third byte from the end tells manifests from call graphs.
    have bytes := congrArg (fun bytes => bytes.reverse[2]?) names
    rw [List.reverse_append, List.reverse_append,
      List.getElem?_append_left (by cases family <;> decide),
      List.getElem?_append_left (by cases second <;> decide)] at bytes
    refine absurd ?_ endings
    revert bytes
    cases family <;> cases second <;> decide

end Settings

namespace Analysis

variable {settings : Settings} {base : Location} {subjects tables : List (String × Family)}
  {before between after : FileTree}

/-! ### Trees that are alike -/

/-- In both trees the same folders can be made for tables. -/
structure SameRoom (settings : Settings) (before after : FileTree) : Prop where
  /-- Relative paths start at the same location. -/
  workingFolder : after.workingFolder = before.workingFolder
  /-- The path of the results starts in a folder of both trees, or of none. -/
  start : before.lookup? (settings.resultsFolder.origin before.workingFolder) = some .folder ↔
    after.lookup? (settings.resultsFolder.origin before.workingFolder) = some .folder
  /-- On the way to the tables the same files stand. -/
  way : ∀ {place}, settings.Way before.workingFolder place →
    (before.HoldsFile place ↔ after.HoldsFile place)

/-- Both trees agree about some applications and families, and hold the same tables of some. -/
structure Alike (settings : Settings) (subjects tables : List (String × Family))
    (before after : FileTree) : Prop where
  /-- The same folders can be made. -/
  room : SameRoom settings before after
  /-- The artifacts are the same. -/
  artifacts : ∀ subject ∈ subjects, SameRead (settings.artifactFile subject.2 subject.1) before after
  /-- Folders stand in the places of the same tables. -/
  clear : ∀ subject ∈ subjects,
    (before.lookup? (subjectPlace settings before.workingFolder subject) = some .folder ↔
      after.lookup? (subjectPlace settings before.workingFolder subject) = some .folder)
  /-- The same can be read in the places of the tables. -/
  tables : ∀ subject ∈ tables, SameRead (settings.tableFile subject.2 subject.1) before after

/-- What is not written where artifacts may lie does not change them. -/
theorem sameRead_artifact {files : List Location} {name : String} (descends : settings.Descends)
    (only : OnlyWrites files before after) (avoids : Settings.AvoidsArtifacts files)
    (plain : IsPlain name) (family : Family) :
    SameRead (settings.artifactFile family name) before after := by
  have clear := @Settings.artifactPlace_notMem settings family name before.workingFolder files plain
    avoids
  rw [settings.artifactFile_eq] at clear ⊢
  exact only.sameRead (descends.artifactFolder family)
    (Settings.isName_artifactName plain family) clear

namespace SameRoom

theorem refl (settings : Settings) (tree : FileTree) : SameRoom settings tree tree :=
  ⟨rfl, Iff.rfl, fun _ => Iff.rfl⟩

theorem symm (same : SameRoom settings before after) : SameRoom settings after before where
  workingFolder := same.workingFolder.symm
  start := by
    rw [same.workingFolder]
    exact same.start.symm
  way := fun way => (same.way (same.workingFolder ▸ way)).symm

theorem trans (first : SameRoom settings before between) (second : SameRoom settings between after) :
    SameRoom settings before after where
  workingFolder := second.workingFolder.trans first.workingFolder
  start := by
    have later := second.start
    rw [first.workingFolder] at later
    exact first.start.trans later
  way := fun way => (first.way way).trans (second.way (first.workingFolder ▸ way))

/-- In both trees the same stands in the way of the folder of a family. -/
theorem admits (same : SameRoom settings before after) (descends : settings.Descends)
    (family : Family) :
    before.Admits (parentOf (settings.familyFolder family).inside) ↔
      after.Admits (parentOf (settings.familyFolder family).inside) := by
  have based := same.workingFolder
  have elsewhere := descends.elsewhere family before.workingFolder
  have origin : (parentOf (settings.familyFolder family).inside).origin before.workingFolder =
      settings.resultsFolder.origin before.workingFolder := by
    rw [← settings.origin_familyFolder family]
    cases inside : (settings.familyFolder family).inside with
    | nil =>
      rw [placeFrom_eq_inside, inside] at elsewhere
      exact absurd rfl elsewhere
    | cons first rest => exact inside ▸ (leads_parentOf inside _).1
  constructor
  · rintro ⟨start, free⟩
    refine ⟨?_, fun {place} passes holds => ?_⟩
    · rw [based, origin]
      exact same.start.mp (origin ▸ start)
    · rw [based] at passes
      exact free passes ((same.way ⟨family, (passes_parentOf elsewhere).mp passes⟩).mpr holds)
  · rintro ⟨start, free⟩
    rw [based, origin] at start
    refine ⟨origin ▸ same.start.mpr start, fun {place} passes holds => ?_⟩
    refine @free place (based ▸ passes) ?_
    exact (same.way ⟨family, (passes_parentOf elsewhere).mp passes⟩).mp holds

/-- **Where no files are written on the way, the room stays the same.** -/
theorem of_touches {files : List Location} {folders : Location → Prop}
    (touches : Touches files folders before after)
    (aside : ∀ place ∈ files, ¬ settings.Way before.workingFolder place)
    (within : ∀ place, folders place → settings.Way before.workingFolder place) :
    SameRoom settings before after where
  workingFolder := touches.writes.workingFolder
  start := by
    refine ⟨touches.writes.folder, fun found => (touches.makes _ found).resolve_right fun made => ?_⟩
    obtain ⟨family, passes⟩ := within _ made
    exact passes.proper (settings.origin_familyFolder family _).symm
  way := fun {place} way => by
    have outside : place ∉ files := fun member => aside place member way
    simp only [HoldsFile, touches.writes.file outside]

end SameRoom

namespace Alike

theorem refl (settings : Settings) (subjects tables : List (String × Family)) (tree : FileTree) :
    Alike settings subjects tables tree tree :=
  ⟨.refl settings tree, fun _ _ => .refl _ _, fun _ _ => Iff.rfl, fun _ _ => .refl _ _⟩

theorem symm (alike : Alike settings subjects tables before after) :
    Alike settings subjects tables after before where
  room := alike.room.symm
  artifacts := fun subject member => (alike.artifacts subject member).symm
  clear := fun subject member => by
    rw [alike.room.workingFolder]
    exact (alike.clear subject member).symm
  tables := fun subject member => (alike.tables subject member).symm

theorem trans (first : Alike settings subjects tables before between)
    (second : Alike settings subjects tables between after) :
    Alike settings subjects tables before after where
  room := first.room.trans second.room
  artifacts := fun subject member =>
    (first.artifacts subject member).trans (second.artifacts subject member)
  clear := fun subject member => by
    have later := second.clear subject member
    rw [first.room.workingFolder] at later
    exact (first.clear subject member).trans later
  tables := fun subject member =>
    (first.tables subject member).trans (second.tables subject member)

variable {files : List Location} {folders : Location → Prop}

/-- **What is written elsewhere does not matter**: neither on the way to the tables, nor where an
artifact may lie, nor in the place of one of the tables. -/
theorem of_touches (descends : settings.Descends) (touches : Touches files folders before after)
    (aside : ∀ place ∈ files, ¬ settings.Way before.workingFolder place)
    (avoids : Settings.AvoidsArtifacts files)
    (within : ∀ place, folders place → settings.Way before.workingFolder place)
    (plain : ∀ subject ∈ subjects ++ tables, IsPlain subject.1)
    (outside : ∀ subject ∈ tables, subjectPlace settings before.workingFolder subject ∉ files) :
    Alike settings subjects tables before after where
  room := .of_touches touches aside within
  artifacts := fun subject member => sameRead_artifact descends touches.writes avoids
    (plain subject (List.mem_append_left _ member)) subject.2
  clear := fun subject member => by
    have named := plain subject (List.mem_append_left _ member)
    refine ⟨touches.writes.folder, fun found => (touches.makes _ found).resolve_right fun made => ?_⟩
    exact Settings.not_way_of_table named (within _ made)
  tables := fun subject member => by
    have named := plain subject (List.mem_append_right _ member)
    exact touches.writes.sameRead (descends.familyFolder subject.2)
      (Settings.isName_tableName named) (outside subject member)

end Alike

/-! ### Saving -/

section Covers

variable {files : List Location} {folders : Location → Prop}
  (within : ∀ place, settings.Entered base place → folders place)

include within

/-- Making a table writes it only, and makes folders on the way only. -/
theorem covers_tableFile {family : Family} {name : String} (plain : IsPlain name)
    (inside : subjectPlace settings base (name, family) ∈ files) :
    Covers (Touching base files folders) (settings.tableFile family name) :=
  covers_touching (Settings.isName_tableName plain)
    (fun place enters => within place ⟨family, enters⟩) inside

/-- So does making a file in the folder of the results. -/
theorem covers_result {bytes : Bytes} (named : IsName bytes)
    (inside : (settings.resultsFolder.join ⟨bytes⟩).placeFrom base ∈ files) :
    Covers (Touching base files folders) (settings.resultsFolder.join ⟨bytes⟩) :=
  covers_touching named (fun place enters => within place (Settings.entered_of_results enters))
    inside

end Covers

section Saving

variable {vocabulary : Vocabulary} {features : FeatureVector vocabulary}
  {identifier? : Option Identifier}

/-- A table is written in the same way in trees that are alike. -/
theorem write_alike {family : Family} {name : String} {content : Bytes}
    {made made' after after' : FileTree} (descends : settings.Descends)
    (plain : ∀ subject ∈ subjects ++ tables, IsPlain subject.1) (named : IsPlain name)
    (alike : Alike settings subjects tables made made')
    (one : made.write (settings.tableFile family name) content = .ok after)
    (other : made'.write (settings.tableFile family name) content = .ok after') :
    Alike settings subjects tables after after' := by
  have isName := Settings.isName_tableName named
  have aside : ∀ place ∈ [subjectPlace settings made.workingFolder (name, family)],
      ¬ settings.Way made.workingFolder place := fun place member => by
    rw [List.mem_singleton.mp member]
    exact Settings.not_way_of_table named
  have avoids : Settings.AvoidsArtifacts
      [subjectPlace settings made.workingFolder (name, family)] := fun place member => by
    rw [List.mem_singleton.mp member, subjectPlace, Settings.lastByte?_tablePlace named]
    decide
  have covers := @covers_tableFile settings made.workingFolder _ _
    (fun _ entered => entered.way descends) family name named (List.mem_singleton_self _)
  have touches := covers.file one rfl
  have touches' := covers.file other alike.room.workingFolder
  have others : ∀ subject ∈ subjects ++ tables.filter (· ≠ (name, family)), IsPlain subject.1 :=
    fun subject member => plain subject <| (List.mem_append.mp member).elim
      (List.mem_append_left _) fun later => List.mem_append_right _ (List.mem_filter.mp later).1
  have outside : ∀ subject ∈ tables.filter (· ≠ (name, family)),
      subjectPlace settings made.workingFolder subject ∉
        [subjectPlace settings made.workingFolder (name, family)] := fun subject member same => by
    obtain ⟨inTables, different⟩ := List.mem_filter.mp member
    obtain ⟨sameFamily, sameName⟩ := (Settings.tablePlace_inj
      (plain subject (List.mem_append_right _ inTables)) named).mp (List.mem_singleton.mp same)
    exact of_decide_eq_true different (Prod.ext sameName sameFamily)
  have rest : Alike settings subjects (tables.filter (· ≠ (name, family))) after after' := by
    have start : Alike settings subjects (tables.filter (· ≠ (name, family))) made made' :=
      ⟨alike.room, alike.artifacts, alike.clear, fun subject member =>
        alike.tables subject (List.mem_filter.mp member).1⟩
    have based := alike.room.workingFolder
    exact (Alike.of_touches descends touches aside avoids (fun _ => id) others outside).symm.trans
      (start.trans (.of_touches descends touches' (based ▸ aside) avoids
        (fun _ way => based ▸ way) others (based ▸ outside)))
  refine ⟨rest.room, rest.artifacts, rest.clear, fun subject member => ?_⟩
  by_cases same : subject = (name, family)
  · rw [same]
    exact .of_read (read_of_write_join isName one) (read_of_write_join isName other)
  · exact rest.tables subject (List.mem_filter.mpr ⟨member, decide_eq_true same⟩)

/-- In trees that are alike, a table can be written in both or in none, if its folder is there. -/
theorem write_alike_iff {family : Family} {name : String} {content : Bytes}
    {made made' : FileTree} (descends : settings.Descends) (named : IsPlain name)
    (member : (name, family) ∈ subjects) (alike : Alike settings subjects tables made made')
    (there : made.lookup? ((settings.familyFolder family).placeFrom made.workingFolder) =
      some .folder)
    (there' : made'.lookup? ((settings.familyFolder family).placeFrom made'.workingFolder) =
      some .folder) :
    (∃ after, made.write (settings.tableFile family name) content = .ok after) ↔
      ∃ after, made'.write (settings.tableFile family name) content = .ok after := by
  have down := descends.familyFolder family
  have isName := Settings.isName_tableName named
  have clear := alike.clear _ member
  refine (write_join_iff down isName).trans (Iff.trans ?_ (write_join_iff down isName).symm)
  refine and_congr_right fun _ => ?_
  simp only [there, there', true_and]
  rw [alike.room.workingFolder]
  exact not_congr clear

/-- In trees that are alike, the folder of a family can be made in both or in none. -/
theorem createFolders_alike (descends : settings.Descends) (family : Family)
    (plain : ∀ subject ∈ subjects ++ tables, IsPlain subject.1)
    (alike : Alike settings subjects tables before after) :
    ∃ result result' made made',
      before.createFolders (parentOf (settings.familyFolder family).inside) = (result, made) ∧
      after.createFolders (parentOf (settings.familyFolder family).inside) = (result', made') ∧
      Alike settings subjects tables made made' ∧
      (result = .ok () ↔ result' = .ok ()) ∧ ∀ tree, result = .ok () → tree = made ∨ tree = made' →
        tree.lookup? ((settings.familyFolder family).placeFrom tree.workingFolder) =
          some .folder := by
  have down := descends.familyFolder family
  have elsewhere := descends.elsewhere family
  obtain ⟨makes, there⟩ :=
    createFolders_parentOf_iff down (elsewhere _) (@rfl _ before.workingFolder)
  obtain ⟨makes', there'⟩ :=
    createFolders_parentOf_iff down (elsewhere _) (@rfl _ after.workingFolder)
  have both := (makes.trans (and_congr_right fun _ => alike.room.admits descends family)).trans
    makes'.symm
  -- Whether they could be made or not, only folders on the way were.
  have grown (tree : FileTree) : Alike settings subjects tables tree
      (tree.createFolders (parentOf (settings.familyFolder family).inside)).2 := by
    have isName := (Settings.isName_tableName (show IsPlain "" by decide))
    have makes : OnlyMakes ((settings.familyFolder family).Enters tree.workingFolder) tree _ :=
      createParent_onlyMakes isName tree
    rw [createParent, parent?_join isName] at makes
    exact .of_touches descends ⟨createFolders_onlyWrites tree _, makes⟩
      (fun _ absent => absurd absent List.not_mem_nil)
      (fun _ absent => absurd absent List.not_mem_nil)
      (fun _ enters => ⟨family, enters.passes down⟩) plain fun _ _ => List.not_mem_nil
  have reached := (grown before).symm.trans (alike.trans (grown after))
  rcases first : before.createFolders (parentOf (settings.familyFolder family).inside) with
    ⟨result, made⟩
  rcases second : after.createFolders (parentOf (settings.familyFolder family).inside) with
    ⟨result', made'⟩
  rw [first, second] at reached
  rw [first, second] at both
  have same : result = .ok () ↔ result' = .ok () := by simpa using both
  refine ⟨result, result', made, made', rfl, rfl, reached, same, fun tree done which => ?_⟩
  rcases which with rfl | rfl
  · exact there (done ▸ first)
  · exact there' (same.mp done ▸ second)

/-- **In trees that are alike, a table is written or cannot be written for the same reason**, and
the trees are alike afterwards. -/
theorem saveTable_agree {family : Family} {name : String} (descends : settings.Descends)
    (plain : ∀ subject ∈ subjects ++ tables, IsPlain subject.1)
    (member : (name, family) ∈ subjects) :
    Step.Agree (Alike settings subjects tables)
      (saveTable features (settings.tableFile family name) identifier?).run
      (saveTable features (settings.tableFile family name) identifier?).run
      fun _ => Alike settings subjects tables := by
  intro one other alike
  have named : IsPlain name := plain _ (List.mem_append_left _ member)
  have run := @saveTable_run _ features (settings.familyFolder family) _ identifier?
    (Settings.isName_tableName named)
  obtain ⟨result, result', made, made', first, second, reached, both, there⟩ :=
    createFolders_alike descends family plain alike
  rw [show settings.tableFile family name =
    (settings.familyFolder family).join ⟨Text.encode (name ++ ".csv")⟩ from rfl, run, run, first,
    second]
  cases result with
  | error fault =>
    cases result' with
    | error fault' => exact ⟨rfl, reached⟩
    | ok done => cases both.mpr rfl
  | ok done =>
    cases both.mp rfl
    have writable := @write_alike_iff settings subjects tables family name
      (Text.encode (features.csv identifier?)) made made' descends named member reached
      (there made rfl (.inl rfl)) (there made' rfl (.inr rfl))
    dsimp only
    cases written : made.write ((settings.familyFolder family).join
        ⟨Text.encode (name ++ ".csv")⟩) (Text.encode (features.csv identifier?)) with
    | ok tree =>
      obtain ⟨tree', written'⟩ := writable.mp ⟨tree, written⟩
      rw [show made'.write ((settings.familyFolder family).join
        ⟨Text.encode (name ++ ".csv")⟩) (Text.encode (features.csv identifier?)) = .ok tree'
        from written']
      exact ⟨rfl, write_alike descends plain named reached written written'⟩
    | error fault =>
      cases written' : made'.write ((settings.familyFolder family).join
          ⟨Text.encode (name ++ ".csv")⟩) (Text.encode (features.csv identifier?)) with
      | ok tree' =>
        obtain ⟨tree, absurdity⟩ := writable.mpr ⟨tree', written'⟩
        cases written.symm.trans absurdity
      | error fault' => exact ⟨rfl, reached⟩

end Saving

/-- **Trees that are alike decide about their applications and families in the same way.** -/
theorem Alike.decides {family : Family} {name : String} (descends : settings.Descends)
    (plain : ∀ subject ∈ subjects ++ tables, IsPlain subject.1)
    (member : (name, family) ∈ subjects) :
    Decides (Alike settings subjects tables) settings name family where
  reads := fun alike => alike.artifacts _ member
  saves := fun _ _ => saveTable_agree descends plain member

end Analysis

end ApkFeatures
