/-
**What a broken manifest costs.**

A manifest that cannot be had costs both of its tables, with the same reason. One that is no XML
document costs the intents only, even where intents have been found before the fault: their table is
written at the end or not at all. Whether a table can be written does not depend on what is in it, so
the permissions are saved or not whatever becomes of the intents.

Until a manifest is had, nothing is done to a table but what is done to the folder in which its
application is decompressed. That folder has to be apart from the table; the folder of a dotted
package is not.

* `CanSave`, `saveTable_ok_iff` — when a table is saved.
* `SameFile` — a file is left as it was.
* `Saved`, `saveFamily_saved` — what becomes of the table of a family.
* `readManifest_sameFile` — what is done until the manifest is had.
* `manifestOutcomes_spec` — the outcomes and the tables of an application.
-/
import ApkFeatures.Proofs.Analysis.Tables
import ApkFeatures.Proofs.Decompression
import ApkFeatures.Proofs.Extraction
import ApkFeatures.Xml.Reader
import Mathlib

namespace ApkFeatures

open FilePath FileTree

/-! ### Files that are left as they were -/

namespace FileTree

variable {before between after : FileTree} {place : Location} {path : FilePath} {content : Bytes}
  {files : List Location}

/-- A file is left as it was, or there is still none. -/
def SameFile (place : Location) (before after : FileTree) : Prop :=
  ∀ content executable, after.lookup? place = some (.file content executable) ↔
    before.lookup? place = some (.file content executable)

theorem SameFile.trans (first : SameFile place before between)
    (second : SameFile place between after) : SameFile place before after :=
  fun content executable => (second content executable).trans (first content executable)

theorem OnlyWrites.sameFile (only : OnlyWrites files before after) (outside : place ∉ files) :
    SameFile place before after := fun _ _ => only.file outside

/-- From wherever paths start at a location, a file is left as it was. -/
def Leaving (base place : Location) (before after : FileTree) : Prop :=
  before.workingFolder = base → after.workingFolder = base ∧ SameFile place before after

instance (base place : Location) : IsFrame (Leaving base place) where
  refl _ := fun started => ⟨started, fun _ _ => Iff.rfl⟩
  trans first second := fun started =>
    have earlier := first started
    have later := second earlier.1
    ⟨later.1, earlier.2.trans later.2⟩

/-- Paths that start at a location still start there. -/
def Anchored (base : Location) (before after : FileTree) : Prop :=
  before.workingFolder = base → after.workingFolder = base

instance (base : Location) : IsFrame (Anchored base) where
  refl _ := id
  trans first second := fun started => second (first started)

/-- **Whether a file can be written does not depend on its content.** -/
theorem write_congr (written : before.write path content = .ok after) (other : Bytes) :
    ∃ again, before.write path other = .ok again := by
  obtain ⟨slot, given, free, -⟩ := putFile_eq_ok written
  exact putFile_of_putFile written rfl id ((slot_place given).1 ▸ free) other none

end FileTree

namespace Analysis

variable {parser : Xml.Parser} {tools : Toolbox} {settings : Settings}
  {application : Application} {package : FilePath} {progress reached : Progress}
  {base : Location}

/-! ### Tables that can be saved -/

/-- The folder of a file can be made, and something can be written there. -/
def CanSave (tree : FileTree) (path : FilePath) : Prop :=
  ∃ made after, tree.createParent path = (.ok (), made) ∧ made.write path [] = .ok after

instance (tree : FileTree) (path : FilePath) : Decidable (CanSave tree path) :=
  decidable_of_iff ((tree.createParent path).1.isOk ∧
      ((tree.createParent path).2.write path []).isOk) <| by
    unfold CanSave
    rcases tree.createParent path with ⟨fault | done, made⟩
    · simp [Except.isOk, Except.toBool]
    · cases written : made.write path [] with
      | error fault => simp [Except.isOk, Except.toBool, written]
      | ok after => simp [Except.isOk, Except.toBool, written]

section Saving

variable {vocabulary : Vocabulary} {features : FeatureVector vocabulary} {folder : FilePath}
  {bytes : Bytes} {identifier? : Option Identifier}

/-- **A table is saved just if it can be**, whatever is in it. -/
theorem saveTable_ok_iff (named : IsName bytes) :
    (∃ reached, (saveTable features (folder.join ⟨bytes⟩) identifier?).run progress =
      (.ok (), reached)) ↔ CanSave progress.tree (folder.join ⟨bytes⟩) := by
  rw [saveTable_run named, CanSave, createParent, parent?_join named]
  dsimp only
  rcases progress.tree.createFolders (parentOf folder.inside) with ⟨fault | done, made⟩
  · constructor
    · rintro ⟨reached, ⟨⟩⟩
    · rintro ⟨made, after, ⟨⟩, -⟩
  · dsimp only
    constructor
    · rintro ⟨reached, saved⟩
      split at saved
      · cases saved
      · rename_i after written
        obtain ⟨empty, writable⟩ := write_congr written []
        exact ⟨made, empty, rfl, writable⟩
    · rintro ⟨_, empty, ⟨⟩, writable⟩
      obtain ⟨after, written⟩ := write_congr writable (Text.encode (features.csv identifier?))
      rw [written]
      exact ⟨_, rfl⟩

/-- A table that is not saved is not touched. What is told of it is that its folder could not be
made, or the table itself. -/
theorem saveTable_error (named : IsName bytes) {failure : Failure}
    (unsaved : (saveTable features (folder.join ⟨bytes⟩) identifier?).run progress =
      (.error failure, reached)) :
    (failure = .attempt (.createFolder (parentOf folder.inside)) ∨
        failure = .attempt (.createFile (folder.join ⟨bytes⟩))) ∧
      OnlyWrites [] progress.tree reached.tree := by
  have only := createFolders_onlyWrites progress.tree (parentOf folder.inside)
  rw [saveTable_run named] at unsaved
  rcases created : progress.tree.createFolders (parentOf folder.inside) with ⟨fault | done, made⟩
  · rw [created] at unsaved only
    cases unsaved
    exact ⟨.inl rfl, only⟩
  · rw [created] at unsaved only
    dsimp only at unsaved
    split at unsaved
    · cases unsaved
      exact ⟨.inr rfl, only⟩
    · cases unsaved

end Saving

/-! ### The table of a family -/

/-- What becomes of the features of an application in a family: if its table can be saved, it holds
them and is reported. Otherwise it is left as it was, and what could not be made is told. -/
structure Saved (settings : Settings) (application : String) (family : Family)
    (features : FeatureVector family.vocabulary) (before after : FileTree) (outcome : Outcome) :
    Prop where
  /-- The outcome is about the family. -/
  about : outcome.subject = (application, family)
  /-- The table is reported and holds the features. -/
  extracted : CanSave before (settings.tableFile family application) →
    outcome.status = .extracted (settings.tableFile family application) ∧
      after.read (settings.tableFile family application) =
        .ok (Text.encode (features.csv (family.identifier? application)))
  /-- The table is left alone. -/
  skipped : ¬ CanSave before (settings.tableFile family application) →
    (outcome.status = .skipped (Failure.attempt
        (.createFolder (parentOf (settings.familyFolder family).inside))).message ∨
      outcome.status = .skipped (Failure.attempt
        (.createFile (settings.tableFile family application))).message) ∧
      SameFile ((settings.tableFile family application).placeFrom before.workingFolder) before after

/-- What is written elsewhere does not matter. -/
theorem Saved.of_onlyWrites {family : Family} {features : FeatureVector family.vocabulary}
    {before between after : FileTree} {outcome : Outcome} {name : String} {files : List Location}
    (saved : Saved settings name family features before between outcome)
    (start : between.workingFolder = before.workingFolder)
    (only : OnlyWrites files between after)
    (outside : (settings.tableFile family name).placeFrom before.workingFolder ∉ files) :
    Saved settings name family features before after outcome where
  about := saved.about
  extracted := fun can => ⟨(saved.extracted can).1,
    only.read (start ▸ outside) (saved.extracted can).2⟩
  skipped := fun cannot => ⟨(saved.skipped cannot).1,
    (saved.skipped cannot).2.trans (only.sameFile outside)⟩

/-- **What becomes of the table of a family** is told by its features and by whether it can be
saved. -/
theorem saveFamily_saved {family : Family} (plain : IsPlain application.name)
    (features : FeatureVector family.vocabulary) (progress : Progress) :
    Saved settings application.name family features progress.tree
      (saveFamily settings application family features progress).2.tree
      (saveFamily settings application family features progress).1 := by
  have named := Settings.isName_tableName plain
  have can := @saveTable_ok_iff progress _ features (settings.familyFolder family) _
    (family.identifier? application.name) named
  rcases saved : (saveTable features (settings.tableFile family application.name)
    (family.identifier? application.name)).run progress with ⟨failure | written, reached⟩
  · obtain ⟨told, outcome⟩ := saveFamily_of_failure saved
    obtain ⟨reason, only⟩ := saveTable_error named saved
    rw [outcome]
    refine ⟨rfl, fun writable => ?_, fun _ => ⟨?_, only.sameFile List.not_mem_nil⟩⟩
    · obtain ⟨after, ended⟩ := can.mpr writable
      cases saved.symm.trans ended
    · exact reason.imp (fun same => by rw [same]) fun same => by rw [same]; rfl
  · rw [saveFamily_of_table saved]
    exact ⟨rfl, fun _ => ⟨rfl, read_of_saveTable named saved⟩,
      fun cannot => absurd (can.mp ⟨reached, saved⟩) cannot⟩

theorem saveFamily_writes {vocabulary : Vocabulary} {family : Family}
    (plain : IsPlain application.name) (start : progress.tree.workingFolder = base)
    (features : FeatureVector vocabulary) :
    OnlyWrites [(settings.tableFile family application.name).placeFrom base] progress.tree
      (saveFamily settings application family features progress).2.tree :=
  saveFamily_keeps (covers_writing (Settings.isName_tableName plain) base) features progress start

/-! ### Until the manifest is had -/

/-- The tool that decompresses an application leaves a file as it was. -/
def LeavesAlone (tools : Toolbox) (settings : Settings) (application : Application)
    (base place : Location) : Prop :=
  ∀ tree : FileTree, tree.workingFolder = base →
    SameFile place tree (tools (Artifact.decompression settings application) tree).2

/-- A table lies apart from what is decompressed, and the tool leaves it alone; or there are no
tools. -/
def Apart (tools : Toolbox) (settings : Settings) (application : Application) (base : Location)
    (family : Family) : Prop :=
  settings.extract = false ∨
    (¬ (settings.decompressed application.name).placeFrom base <:+
        (settings.tableFile family application.name).placeFrom base) ∧
      LeavesAlone tools settings application base
        ((settings.tableFile family application.name).placeFrom base)

/-- **The tables lie apart from what is decompressed** if the folder of all decompressed applications
is not one that the results lie in, for every package that is not dotted. -/
theorem apart_of_not_suffix (made : Application.ofPackage? package = some application)
    (named : ¬ Application.IsDotted package)
    (beside : ¬ settings.decompressedFolder.placeFrom base <:+
      settings.resultsFolder.placeFrom base) (family : Family)
    (leaves : LeavesAlone tools settings application base
      ((settings.tableFile family application.name).placeFrom base)) :
    Apart tools settings application base family := by
  refine .inr ⟨fun inside => ?_, leaves⟩
  have own : (settings.decompressed application.name).placeFrom base =
      Text.encode application.name :: settings.decompressedFolder.placeFrom base :=
    placeFrom_join ((Application.isName_iff made).mpr named) base
  rw [own, Settings.tablePlace (Application.name_of_ofPackage? made).1] at inside
  rcases List.suffix_cons_iff.mp inside with same | above
  · have lengths := congrArg List.length (List.cons.inj same).1
    rw [Text.encode_append, List.length_append] at lengths
    have ending : (Text.encode ".csv").length = 4 := by decide
    omega
  · rcases List.suffix_cons_iff.mp above with same | above
    · exact beside ((List.cons.inj same).2 ▸ List.suffix_refl _)
    · exact beside ((List.suffix_cons _ _).trans above)

/-- A manifest that is reused is read where it lies. -/
theorem readManifest_of_reusable {manifest : String}
    (unforced : settings.extract = false ∨ settings.force = false)
    (read : progress.tree.read (settings.manifestFile application.name) =
      .ok (Text.encode manifest))
    (filled : Text.encode manifest ≠ []) :
    ∃ told, (readManifest tools settings application).run progress =
      (.ok manifest, { progress with told := told }) := by
  have present := hasContent_iff_read.mpr ⟨_, read, filled⟩
  have given := @Artifact.extract_of_reusable settings progress tools application .permissions present
    unforced
  have decoded : progress.tree.readText (settings.artifactFile .permissions application.name) =
      .ok manifest := FileTree.readText_eq_ok_iff.mpr read
  refine ⟨progress.told ++ [Artifact.reuse application .permissions],
    Trial.run_bind_eq_ok.mpr ⟨_, _, given, ?_⟩⟩
  rw [Trial.run_ask]
  dsimp only
  rw [decoded]
  rfl

theorem extractManifest_leaving {place : Location}
    (outside : ¬ (settings.decompressed application.name).placeFrom base <:+ place)
    (leaves : LeavesAlone tools settings application base place)
    (elsewhere : (settings.manifestFile application.name).placeFrom base ≠ place) :
    Trial.Keeps (Leaving base place) (Artifact.extractManifest tools settings application) := by
  refine Artifact.extractManifest_frame ?_ (.change ?_) ?_
  · rintro tree rfl
    obtain ⟨started, kept⟩ := removeFolder_outside tree (settings.decompressed application.name)
    exact ⟨started, fun _ _ => by rw [kept place outside]⟩
  · intro tree started
    by_cases allowed : (Artifact.decompression settings application).isAllowed = true
    · rw [if_pos allowed]
      exact ⟨started, leaves tree started⟩
    · rw [if_neg allowed]
      exact ⟨started, fun _ _ => Iff.rfl⟩
  · rintro tree source rfl
    have only := copyInto_onlyWrites tree source (settings.manifestFile application.name)
    exact ⟨only.workingFolder, only.sameFile (by simpa using elsewhere.symm)⟩

/-- Nothing that is done for a manifest moves the folder where paths start. -/
theorem readManifest_workingFolder (tools : Toolbox) (settings : Settings)
    (application : Application) (progress : Progress) :
    ((readManifest tools settings application).run progress).2.tree.workingFolder =
      progress.tree.workingFolder := by
  have kept : Trial.Keeps (Anchored progress.tree.workingFolder)
      (readManifest tools settings application) := by
    refine (Artifact.extractManifest_frame ?_ (.change ?_) ?_).bind fun path => .ask _ _
    · exact fun tree started => (removeFolder_outside tree _).1.trans started
    · intro tree started
      by_cases allowed : (Artifact.decompression settings application).isAllowed = true
      · rw [if_pos allowed]
        exact started
      · rw [if_neg allowed]
        exact started
    · exact fun tree source started =>
        (copyInto_onlyWrites tree source _).workingFolder.trans started
  exact kept progress rfl

/-- **Until the manifest is had, a table that lies apart is left as it was.** -/
theorem readManifest_sameFile (plain : IsPlain application.name) {family : Family}
    (apart : Apart tools settings application progress.tree.workingFolder family) :
    SameFile ((settings.tableFile family application.name).placeFrom progress.tree.workingFolder)
      progress.tree ((readManifest tools settings application).run progress).2.tree := by
  rcases apart with off | ⟨outside, leaves⟩
  · obtain ⟨told, ran⟩ := readManifest_reading off tools application progress
    rw [ran]
    exact fun _ _ => Iff.rfl
  · have elsewhere : (settings.manifestFile application.name).placeFrom
          progress.tree.workingFolder ≠
        (settings.tableFile family application.name).placeFrom progress.tree.workingFolder :=
      @Settings.artifactPlace_ne settings .permissions _ _ _ _ plain
        (Settings.lastByte?_tablePlace plain) (by decide)
    have kept := (extractManifest_leaving outside leaves elsewhere).bind fun path =>
      .ask (some (.readFile path)) (·.readText path)
    exact (kept progress rfl).2

/-! ### The outcomes of an application -/

/-- What becomes of the permissions is told by the text of the manifest, whatever it is. -/
theorem permissionOutcome_saved (plain : IsPlain application.name) (manifest : String)
    (progress : Progress) :
    Saved settings application.name .permissions (Manifest.permissions manifest.toList)
      progress.tree (permissionOutcome settings application manifest progress).2.tree
      (permissionOutcome settings application manifest progress).1 :=
  @saveFamily_saved settings application .permissions plain (Manifest.permissions manifest.toList)
    { progress with
      told := progress.told ++ Manifest.permissionMessages manifest.toList }

/-- For the permissions of a manifest no file is written but their table. -/
theorem permissionOutcome_writes (plain : IsPlain application.name)
    (start : progress.tree.workingFolder = base) (manifest : String) :
    OnlyWrites [(settings.tableFile .permissions application.name).placeFrom base] progress.tree
      (permissionOutcome settings application manifest progress).2.tree :=
  @saveFamily_writes settings application
    { progress with told := progress.told ++ Manifest.permissionMessages manifest.toList } _ _ _
    plain start (Manifest.permissions manifest.toList)

theorem intentOutcome_of_fault {manifest : String} {complaint : String}
    (broken : Manifest.intents parser manifest.toList = .error complaint) (progress : Progress) :
    ∃ told, intentOutcome parser settings application manifest progress =
      (⟨application.name, .intents, .skipped (Failure.manifest complaint).message⟩,
        { progress with told := told }) := by
  rw [intentOutcome, Step.bind_apply, broken]
  exact ⟨_, rfl⟩

theorem intentOutcome_of_features {manifest : String}
    {features : FeatureVector Vocabulary.intentActions}
    (found : Manifest.intents parser manifest.toList = .ok features) (progress : Progress) :
    ∃ told, intentOutcome parser settings application manifest progress =
      saveFamily settings application .intents features { progress with told := told } := by
  rw [intentOutcome, Step.bind_apply, found]
  exact ⟨_, rfl⟩

/-- The intents of a text that is no document are left out, and nothing is done for them. -/
theorem intentOutcome_skipped {manifest : String} {complaint : String}
    (broken : Manifest.intents parser manifest.toList = .error complaint) (progress : Progress) :
    (intentOutcome parser settings application manifest progress).1.status =
        .skipped (Failure.manifest complaint).message ∧
      (intentOutcome parser settings application manifest progress).2.tree = progress.tree := by
  obtain ⟨told, outcome⟩ := @intentOutcome_of_fault parser settings application _ _ broken progress
  rw [outcome]
  exact ⟨rfl, rfl⟩

/-- What becomes of the intents of a document is told by them. -/
theorem intentOutcome_saved (plain : IsPlain application.name) {manifest : String}
    {features : FeatureVector Vocabulary.intentActions}
    (found : Manifest.intents parser manifest.toList = .ok features) (progress : Progress) :
    Saved settings application.name .intents features progress.tree
      (intentOutcome parser settings application manifest progress).2.tree
      (intentOutcome parser settings application manifest progress).1 := by
  obtain ⟨told, outcome⟩ := @intentOutcome_of_features parser settings application _ _ found progress
  rw [outcome]
  exact @saveFamily_saved settings application .intents plain features { progress with told := told }

/-- For the intents of a manifest no file is written but their table. -/
theorem intentOutcome_writes (plain : IsPlain application.name)
    (start : progress.tree.workingFolder = base) (manifest : String) :
    OnlyWrites [(settings.tableFile .intents application.name).placeFrom base] progress.tree
      (intentOutcome parser settings application manifest progress).2.tree := by
  cases found : Manifest.intents parser manifest.toList with
  | error fault =>
    rw [(intentOutcome_skipped found progress).2]
    exact .refl _ _
  | ok features =>
    obtain ⟨told, outcome⟩ := @intentOutcome_of_features parser settings application _ _ found progress
    rw [outcome]
    exact @saveFamily_writes settings application { progress with told := told } _ _ _ plain start _

/-- **A broken manifest costs what it must.** An application has one outcome for its permissions and
then one for its intents. If the manifest cannot be had, both are left out for the same reason and no
table is touched. If it can, the permissions are told by its text and by whether their table can be
written; neither the place of a fault in the text nor anything about the intents has a part in it. The
intents are left out if the text is no document, whatever it declares before its fault, and their
table is not touched; otherwise they are told in the same way. Before all that, for the manifest, no
table is touched that lies apart from the folder into which the application is decompressed. -/
theorem manifestOutcomes_spec (made : Application.ofPackage? package = some application)
    (parser : Xml.Parser) (tools : Toolbox) (settings : Settings) (progress : Progress) :
    let base := progress.tree.workingFolder
    let place := fun family => (settings.tableFile family application.name).placeFrom base
    let had := (readManifest tools settings application).run progress
    let outcomes := manifestOutcomes parser tools settings application progress
    let after := outcomes.2.tree
    ∃ permissions intents, outcomes.1 = [permissions, intents] ∧
      permissions.subject = (application.name, .permissions) ∧
      intents.subject = (application.name, .intents) ∧
      (∀ failure, had.1 = .error failure →
        permissions.status = .skipped failure.message ∧
          intents.status = .skipped failure.message ∧
          ∀ family, SameFile (place family) had.2.tree after ∧
            (Apart tools settings application base family →
              SameFile (place family) progress.tree after)) ∧
      ∀ manifest, had.1 = .ok manifest →
        Saved settings application.name .permissions (Manifest.permissions manifest.toList)
            had.2.tree after permissions ∧
          (∀ complaint, Manifest.intents parser manifest.toList = .error complaint →
            intents.status = .skipped (Failure.manifest complaint).message ∧
              SameFile (place .intents) had.2.tree after ∧
              (Apart tools settings application base .intents →
                SameFile (place .intents) progress.tree after)) ∧
          ∀ features, Manifest.intents parser manifest.toList = .ok features →
            ∃ between, OnlyWrites [place .permissions] had.2.tree between ∧
              Saved settings application.name .intents features between after intents := by
  intro base place had outcomes after
  obtain ⟨plain, -⟩ := Application.name_of_ofPackage? made
  have started : had.2.tree.workingFolder = base :=
    readManifest_workingFolder tools settings application progress
  have unmoved family (apart : Apart tools settings application base family) :
      SameFile (place family) progress.tree had.2.tree := readManifest_sameFile plain apart
  rcases ran : had with ⟨failure | manifest, reached⟩
  · obtain ⟨told, ended⟩ := manifestOutcomes_of_failure ran
    have same : after = reached.tree := congrArg (·.2.tree) ended
    rw [ran] at unmoved
    refine ⟨_, _, congrArg Prod.fst ended, rfl, rfl, ?_, fun _ given => nomatch given⟩
    rintro _ ⟨⟩
    refine ⟨rfl, rfl, fun family => ?_⟩
    rw [same]
    exact ⟨fun _ _ => Iff.rfl, unmoved family⟩
  · have ended := @manifestOutcomes_of_manifest parser _ _ _ _ _ _ ran
    rw [ran] at unmoved started
    have first := @permissionOutcome_writes settings application reached base plain started manifest
    have second := @intentOutcome_writes parser settings application
      (permissionOutcome settings application manifest reached).2 base plain
      (first.workingFolder.trans started) manifest
    have distinct : place .permissions ≠ place .intents := fun same =>
      nomatch ((Settings.tablePlace_inj plain plain).mp same).1
    have same : after = (intentOutcome parser settings application manifest
        (permissionOutcome settings application manifest reached).2).2.tree :=
      congrArg (·.2.tree) ended
    refine ⟨_, _, congrArg Prod.fst ended, permissionOutcome_subject .., intentOutcome_subject ..,
      fun _ given => (nomatch given), ?_⟩
    rintro _ ⟨⟩
    rw [same]
    refine ⟨(permissionOutcome_saved plain manifest reached).of_onlyWrites first.workingFolder
      second ?_, fun complaint broken => ?_, fun features found =>
      ⟨_, first, intentOutcome_saved plain found _⟩⟩
    · rw [show reached.tree.workingFolder = base from started, List.mem_singleton]
      exact distinct
    · obtain ⟨skipped, left⟩ := @intentOutcome_skipped parser settings application _ _ broken
        (permissionOutcome settings application manifest reached).2
      have untouched : SameFile (place .intents) reached.tree
          (permissionOutcome settings application manifest reached).2.tree :=
        first.sameFile (by simpa using distinct.symm)
      rw [left]
      exact ⟨skipped, untouched, fun apart => (unmoved .intents apart).trans untouched⟩

/-! ### Beside the results -/

/-- Applications are decompressed in a folder beside the tables. -/
def inResults : Settings :=
  { resultsFolder := .ofString "work", decompressedFolder := .ofString "work/apkd" }

/-- A manifest that names a permission and is not closed. -/
def brokenManifest : String :=
  "<a>android.permission.INTERNET"

set_option maxRecDepth 4000 in
theorem intents_brokenManifest :
    ∃ complaint, Manifest.intents Xml.parse brokenManifest.toList = .error complaint := by
  have broken : (Xml.read brokenManifest.toList).2.isSome = true := by cbv
  unfold Manifest.intents Xml.parse
  cases stopped : (Xml.read brokenManifest.toList).2 with
  | none =>
    rw [stopped] at broken
    cases broken
  | some fault => exact ⟨fault.message, rfl⟩

/-- The permissions of a broken manifest are saved, and the old table of its intents stays. -/
theorem manifestOutcomes_spec_sample :
    let application : Application := ⟨"a", .ofString "apks/a.apk"⟩
    let tools : Toolbox := fun _ tree => (.notStarted, tree)
    let old := Artifact.planted [(.ofString "manifests/a_AndroidManifest.xml", brokenManifest),
      (.ofString "work/intents_data/a.csv", "old")]
    let outcomes := manifestOutcomes Xml.parse tools inResults application ⟨old, []⟩
    Application.ofPackage? (.ofString "apks/a.apk") = some application ∧
      Apart tools inResults application old.workingFolder .intents ∧
      ∃ permissions intents complaint, outcomes.1 = [permissions, intents] ∧
        Manifest.intents Xml.parse brokenManifest.toList = .error complaint ∧
        permissions.status = .extracted (inResults.tableFile .permissions "a") ∧
        intents.status = .skipped (Failure.manifest complaint).message ∧
        SameFile ((inResults.tableFile .intents "a").placeFrom old.workingFolder) old
          outcomes.2.tree := by
  intro application tools old outcomes
  have made : Application.ofPackage? (.ofString "apks/a.apk") = some application := by
    decide +kernel
  have started : old.workingFolder = [] := by decide +kernel
  have apart : Apart tools inResults application old.workingFolder .intents := by
    rw [started]
    exact apart_of_not_suffix made (by decide +kernel) (by decide +kernel) .intents
      fun _ _ _ _ => Iff.rfl
  have content : old.read (inResults.manifestFile "a") = .ok (Text.encode brokenManifest) :=
    Fallible.eq_ok_of_toOption (by decide +kernel)
  have writable : CanSave old (inResults.tableFile .permissions "a") := by decide +kernel
  clear_value old
  obtain ⟨told, read⟩ : ∃ told, (readManifest tools inResults application).run ⟨old, []⟩ =
      (.ok brokenManifest, ⟨old, told⟩) :=
    readManifest_of_reusable (.inr rfl) content (by decide)
  obtain ⟨complaint, broken⟩ := intents_brokenManifest
  obtain ⟨permissions, intents, listed, -, -, -, had⟩ :=
    manifestOutcomes_spec made Xml.parse tools inResults ⟨old, []⟩
  rw [read] at had
  obtain ⟨saved, without, -⟩ := had brokenManifest rfl
  obtain ⟨skipped, -, same⟩ := without complaint broken
  exact ⟨made, apart, permissions, intents, complaint, listed, broken, (saved.extracted writable).1,
    skipped, same apart⟩

/-- For a dotted package the tables of the application are removed before the manifest turns out to
be missing, even if the tool does nothing. -/
theorem manifestOutcomes_dotted :
    let application : Application := ⟨"..", .ofString "apks/...apk"⟩
    let tools : Toolbox := fun _ tree => (.notStarted, tree)
    let old := Artifact.planted [(.ofString "work/permissions_data/...csv", "INTERNET"),
      (.ofString "work/intents_data/...csv", "MAIN"), (.ofString "work/apkd/a/apktool.yml", "")]
    let outcomes := manifestOutcomes Xml.parse tools inResults application ⟨old, []⟩
    Application.ofPackage? (.ofString "apks/...apk") = some application ∧
      (∀ base place, LeavesAlone tools inResults application base place) ∧
      (∃ reason, outcomes.1.map Outcome.status = [.skipped reason, .skipped reason]) ∧
      ∀ family ∈ Task.staticAnalysis.families,
        (old.read (inResults.tableFile family application.name)).isOk = true ∧
          ¬ SameFile ((inResults.tableFile family application.name).placeFrom old.workingFolder) old
            outcomes.2.tree := by
  intro application tools old outcomes
  have made : Application.ofPackage? (.ofString "apks/...apk") = some application := by
    decide +kernel
  have skipped : outcomes.1.map Outcome.status =
      [.skipped "could not execute apktool", .skipped "could not execute apktool"] := by
    decide +kernel
  have held : ∀ family ∈ Task.staticAnalysis.families,
      (old.read (inResults.tableFile family application.name)).isOk = true := by
    decide +kernel
  have lost : ∀ family ∈ Task.staticAnalysis.families,
      let place := (inResults.tableFile family application.name).placeFrom old.workingFolder
      (∃ text ∈ ["INTERNET", "MAIN"],
        old.lookup? place = some (.file (Text.encode text) false)) ∧
        outcomes.2.tree.lookup? place = none := by
    decide +kernel
  clear_value old
  refine ⟨made, fun _ _ _ _ _ _ => Iff.rfl, ⟨_, skipped⟩, fun family among => ⟨held family among, ?_⟩⟩
  obtain ⟨⟨text, -, before⟩, after⟩ := lost family among
  intro same
  cases after.symm.trans ((same _ _).mpr before)

end Analysis

end ApkFeatures
