/-
**Where the files of a run lie.**

The tables of single applications, the merged tables and the report lie at different places, and
none of them lies where an artifact does, whatever the folders are and however they are written.

* `isName_tableName`, `isName_artifactName` — what is appended to the name of an application.
* `tablePlace_inj`, `tablePlace_ne_datasetPlace`, `datasetPlace_inj` — tables do not collide.
* `artifactPlace_ne`, `AvoidsArtifacts` — an artifact lies nowhere where a run writes.
-/
import ApkFeatures.Proofs.FileTree.Resolve
import ApkFeatures.Proofs.Text.Utf8
import ApkFeatures.Settings.Basic

namespace ApkFeatures

/-- A text that can be the name of something in a folder. -/
def IsPlain (name : String) : Prop := FilePath.slash ∉ Text.encode name

instance (name : String) : Decidable (IsPlain name) :=
  inferInstanceAs (Decidable (FilePath.slash ∉ Text.encode name))

namespace FilePath

/-- A name with at least three bytes has a meaning of its own. -/
theorem isName_of_length {name : Bytes} (unslashed : slash ∉ name) (long : 3 ≤ name.length) :
    IsName name where
  unslashed := unslashed
  solid := by
    refine Bool.or_eq_false_iff.mpr ⟨decide_eq_false fun same => ?_, decide_eq_false fun same => ?_⟩
    · rw [same] at long
      exact absurd long (by decide)
    · rw [same] at long
      exact absurd long (by decide)
  inner := by
    rintro rfl
    exact absurd long (by decide)

theorem isName_append {name ending : String} (plain : IsPlain name) (plainEnding : IsPlain ending)
    (long : 3 ≤ (Text.encode ending).length) : IsName (Text.encode (name ++ ending)) := by
  refine isName_of_length ?_ ?_
  · rw [Text.encode_append, List.mem_append, not_or]
    exact ⟨plain, plainEnding⟩
  · rw [Text.encode_append, List.length_append]
    exact Nat.le_add_left_of_le long

end FilePath

namespace Family

theorem mem_all (family : Family) : family ∈ all := by
  cases family <;> decide

theorem nodup_all : all.Nodup := by decide

theorem isName_folderName (family : Family) : FilePath.IsName (Text.encode family.folderName) := by
  cases family <;> exact ⟨by decide, by decide, by decide⟩

theorem isName_datasetName (family : Family) :
    FilePath.IsName (Text.encode family.datasetName) := by
  cases family <;> exact ⟨by decide, by decide, by decide⟩

theorem folderName_inj {family other : Family} :
    Text.encode family.folderName = Text.encode other.folderName ↔ family = other := by
  cases family <;> cases other <;> decide

theorem datasetName_inj {family other : Family} :
    Text.encode family.datasetName = Text.encode other.datasetName ↔ family = other := by
  cases family <;> cases other <;> decide

end Family

namespace Settings

open FilePath

variable {settings : Settings} {family other : Family} {name another : String} {base : Location}

/-- What is read of an application for a family. -/
def artifactFile (settings : Settings) : Family → String → FilePath
  | .permissions, name => settings.manifestFile name
  | .intents, name => settings.manifestFile name
  | .sensitiveApis, name => settings.callGraphFile name

/-! ### Places -/

theorem isName_tableName (plain : IsPlain name) : IsName (Text.encode (name ++ ".csv")) :=
  isName_append plain (by decide) (by decide)

/-- The place of a table: its name, below the folder of its family. -/
theorem tablePlace (plain : IsPlain name) :
    (settings.tableFile family name).placeFrom base =
      Text.encode (name ++ ".csv") :: Text.encode family.folderName ::
        settings.resultsFolder.placeFrom base := by
  rw [tableFile, child, ofString, placeFrom_join (isName_tableName plain), familyFolder, child,
    ofString, placeFrom_join family.isName_folderName]

/-- The place of a merged table: in the folder of the results. -/
theorem datasetPlace :
    (settings.datasetFile family).placeFrom base =
      Text.encode family.datasetName :: settings.resultsFolder.placeFrom base := by
  rw [datasetFile, child, ofString, placeFrom_join family.isName_datasetName]

theorem isName_reportName : IsName (Text.encode "report.json") := ⟨by decide, by decide, by decide⟩

theorem reportPlace :
    settings.reportFile.placeFrom base =
      Text.encode "report.json" :: settings.resultsFolder.placeFrom base := by
  rw [reportFile, child, ofString, placeFrom_join isName_reportName]

/-! ### No collisions -/

theorem tablePlace_inj (plain : IsPlain name) (plainOther : IsPlain another) :
    (settings.tableFile family name).placeFrom base =
        (settings.tableFile other another).placeFrom base ↔
      family = other ∧ name = another := by
  rw [tablePlace plain, tablePlace plainOther, List.cons_eq_cons, List.cons_eq_cons,
    Text.encode_append, Text.encode_append, List.append_cancel_right_eq, Text.encode_inj,
    Family.folderName_inj]
  exact ⟨fun same => ⟨same.2.1, same.1⟩, fun same => ⟨same.2, same.1, rfl⟩⟩

theorem tablePlace_ne_datasetPlace (plain : IsPlain name) :
    (settings.tableFile family name).placeFrom base ≠
      (settings.datasetFile other).placeFrom base := by
  rw [tablePlace plain, datasetPlace]
  intro same
  have lengths := congrArg List.length same
  simp at lengths

theorem tablePlace_ne_reportPlace (plain : IsPlain name) :
    (settings.tableFile family name).placeFrom base ≠ settings.reportFile.placeFrom base := by
  rw [tablePlace plain, reportPlace]
  intro same
  have lengths := congrArg List.length same
  simp at lengths

theorem datasetPlace_inj :
    (settings.datasetFile family).placeFrom base = (settings.datasetFile other).placeFrom base ↔
      family = other := by
  rw [datasetPlace, datasetPlace, List.cons_eq_cons, Family.datasetName_inj]
  exact ⟨fun same => same.1, fun same => ⟨same, rfl⟩⟩

theorem datasetPlace_ne_reportPlace :
    (settings.datasetFile family).placeFrom base ≠ settings.reportFile.placeFrom base := by
  rw [datasetPlace, reportPlace]
  intro same
  have names := (List.cons.inj same).1
  cases family <;> exact absurd names (by decide)

/-- The last byte of the name at a place. -/
def lastByte? (place : Location) : Option UInt8 := place.head?.bind List.getLast?

theorem lastByte?_append {front ending : String} {byte : UInt8} {above : Location}
    (last : (Text.encode ending).getLast? = some byte) :
    lastByte? (Text.encode (front ++ ending) :: above) = some byte := by
  rw [lastByte?, List.head?_cons, Option.bind_some, Text.encode_append, List.getLast?_append, last,
    Option.some_or]

/-- Artifacts have names that end in `l`. -/
theorem lastByte?_artifactPlace (plain : IsPlain name) :
    lastByte? ((settings.artifactFile family name).placeFrom base) = some 108 := by
  have manifest : lastByte? ((settings.manifestFile name).placeFrom base) = some 108 := by
    rw [manifestFile, child, ofString,
      placeFrom_join (isName_append plain (by decide) (by decide))]
    exact lastByte?_append rfl
  have callGraph : lastByte? ((settings.callGraphFile name).placeFrom base) = some 108 := by
    rw [callGraphFile, child, ofString,
      placeFrom_join (isName_append plain (by decide) (by decide))]
    exact lastByte?_append rfl
  cases family with
  | permissions => exact manifest
  | intents => exact manifest
  | sensitiveApis => exact callGraph

theorem lastByte?_tablePlace (plain : IsPlain name) :
    lastByte? ((settings.tableFile family name).placeFrom base) = some 118 := by
  rw [tablePlace plain]
  exact lastByte?_append rfl

theorem lastByte?_datasetPlace :
    lastByte? ((settings.datasetFile family).placeFrom base) = some 118 := by
  rw [datasetPlace]
  cases family <;> rfl

theorem lastByte?_reportPlace : lastByte? (settings.reportFile.placeFrom base) = some 110 := by
  rw [reportPlace]
  rfl

/-- **No artifact lies where a table, a merged table or the report does.** -/
theorem artifactPlace_ne {place : Location} {byte : UInt8} (plain : IsPlain name)
    (last : lastByte? place = some byte) (different : byte ≠ 108) :
    (settings.artifactFile family name).placeFrom base ≠ place := by
  intro same
  have artifact := @lastByte?_artifactPlace settings family name base plain
  rw [same, last] at artifact
  exact different (Option.some.inj artifact)

/-- None of the places has a name that ends as those of artifacts do. -/
def AvoidsArtifacts (files : List Location) : Prop :=
  ∀ place ∈ files, lastByte? place ≠ some 108

theorem artifactPlace_notMem {files : List Location} (plain : IsPlain name)
    (avoids : AvoidsArtifacts files) : (settings.artifactFile family name).placeFrom base ∉ files :=
  fun member => avoids _ member (lastByte?_artifactPlace plain)

theorem AvoidsArtifacts.append {files more : List Location} (first : AvoidsArtifacts files)
    (second : AvoidsArtifacts more) : AvoidsArtifacts (files ++ more) :=
  fun place member => (List.mem_append.mp member).elim (first place) (second place)

theorem avoidsArtifacts_dataset :
    AvoidsArtifacts [(settings.datasetFile family).placeFrom base] := by
  intro place member
  rw [List.mem_singleton.mp member, lastByte?_datasetPlace]
  decide

theorem avoidsArtifacts_report : AvoidsArtifacts [settings.reportFile.placeFrom base] := by
  intro place member
  rw [List.mem_singleton.mp member, lastByte?_reportPlace]
  decide

end Settings

end ApkFeatures
