/-
**The outcomes of an application.**

Whatever happens to an application — its artifact is missing, a tool fails, a table cannot be
written — each family of each task ends with one outcome for it.

* `manifestOutcomes_of_manifest`, `manifestOutcomes_of_failure`, `saveFamily_of_table`,
  `saveFamily_of_failure`, `callGraphOutcome_of_table`, `callGraphOutcome_of_failure` — what an
  analysis does, by what becomes of the trial in it.
* `manifestOutcomes_subjects`, `callGraphOutcome_subject` — what the outcomes of an application are
  about, from any progress.
* `manifests_subjects`, `callGraphs_subjects` — what those of all applications are about.
-/
import ApkFeatures.Analysis.CallGraphs
import ApkFeatures.Analysis.Manifests
import ApkFeatures.Proofs.Step

namespace ApkFeatures

/-- What an outcome is about. -/
def Outcome.subject (outcome : Outcome) : String × Family := (outcome.application, outcome.family)

/-- What the outcomes of a task have to be about: every application in turn, in every family. -/
def Task.subjects (task : Task) (applications : List Application) : List (String × Family) :=
  applications.flatMap fun application => task.families.map fun family => (application.name, family)

namespace Analysis

variable {parser : Xml.Parser} {tools : Toolbox} {settings : Settings}
  {application : Application} {progress reached : Progress} {failure : Failure}

/-! ### What an analysis does -/

section Saving

variable {vocabulary : Vocabulary} {features : FeatureVector vocabulary} {family : Family}

theorem saveFamily_of_table
    (saved : (saveTable features (settings.tableFile family application.name)
      (family.identifier? application.name)).run progress = (.ok (), reached)) :
    saveFamily settings application family features progress =
      (⟨application.name, family, .extracted (settings.tableFile family application.name)⟩,
        reached) := by
  rw [saveFamily, Step.bind_apply, saved]
  rfl

theorem saveFamily_of_failure
    (unsaved : (saveTable features (settings.tableFile family application.name)
      (family.identifier? application.name)).run progress = (.error failure, reached)) :
    ∃ told, saveFamily settings application family features progress =
      (⟨application.name, family, .skipped failure.message⟩, { reached with told := told }) := by
  rw [saveFamily, Step.bind_apply, unsaved]
  exact ⟨_, rfl⟩

end Saving

theorem manifestOutcomes_of_manifest {manifest : String}
    (had : (readManifest tools settings application).run progress = (.ok manifest, reached)) :
    manifestOutcomes parser tools settings application progress =
      let permissions := permissionOutcome settings application manifest reached
      let intents := intentOutcome parser settings application manifest permissions.2
      ([permissions.1, intents.1], intents.2) := by
  rw [manifestOutcomes, Step.bind_apply, had]
  rfl

theorem manifestOutcomes_of_failure
    (missed : (readManifest tools settings application).run progress = (.error failure, reached)) :
    ∃ told, manifestOutcomes parser tools settings application progress =
      ([⟨application.name, .permissions, .skipped failure.message⟩,
        ⟨application.name, .intents, .skipped failure.message⟩],
        { reached with told := told }) := by
  rw [manifestOutcomes, Step.bind_apply, missed]
  exact ⟨_, rfl⟩

theorem callGraphOutcome_of_table {output : FilePath}
    (saved : (saveSensitive tools settings application).run progress = (.ok output, reached)) :
    callGraphOutcome tools settings application progress =
      (⟨application.name, .sensitiveApis, .extracted output⟩, reached) := by
  rw [callGraphOutcome, Step.bind_apply, saved]
  rfl

theorem callGraphOutcome_of_failure
    (unsaved : (saveSensitive tools settings application).run progress =
      (.error failure, reached)) :
    ∃ told, callGraphOutcome tools settings application progress =
      (⟨application.name, .sensitiveApis, .skipped failure.message⟩,
        { reached with told := told }) := by
  rw [callGraphOutcome, Step.bind_apply, unsaved]
  exact ⟨_, rfl⟩

/-! ### What the outcomes are about -/

theorem saveFamily_subject {vocabulary : Vocabulary} (settings : Settings)
    (application : Application) (family : Family) (features : FeatureVector vocabulary)
    (progress : Progress) :
    (saveFamily settings application family features progress).1.subject =
      (application.name, family) := by
  rcases saved : (saveTable features (settings.tableFile family application.name)
    (family.identifier? application.name)).run progress with ⟨failure | written, reached⟩
  · obtain ⟨told, outcome⟩ := saveFamily_of_failure saved
    rw [outcome]
    rfl
  · rw [saveFamily_of_table saved]
    rfl

theorem permissionOutcome_subject (settings : Settings) (application : Application)
    (manifest : String) (progress : Progress) :
    (permissionOutcome settings application manifest progress).1.subject =
      (application.name, .permissions) :=
  saveFamily_subject settings application .permissions _ _

theorem intentOutcome_subject (parser : Xml.Parser) (settings : Settings)
    (application : Application) (manifest : String) (progress : Progress) :
    (intentOutcome parser settings application manifest progress).1.subject =
      (application.name, .intents) := by
  rw [intentOutcome, Step.bind_apply]
  cases Manifest.intents parser manifest.toList with
  | ok intents => exact saveFamily_subject settings application .intents intents _
  | error fault => rfl

/-- **The manifest of an application has an outcome for its permissions, then one for its
intents**, whether it can be had or not. -/
theorem manifestOutcomes_subjects (parser : Xml.Parser) (tools : Toolbox) (settings : Settings)
    (application : Application) (progress : Progress) :
    (manifestOutcomes parser tools settings application progress).1.map Outcome.subject =
      Task.staticAnalysis.families.map fun family => (application.name, family) := by
  rcases had : (readManifest tools settings application).run progress
    with ⟨failure | manifest, reached⟩
  · obtain ⟨told, outcomes⟩ := manifestOutcomes_of_failure had
    rw [outcomes]
    rfl
  · rw [manifestOutcomes_of_manifest had, List.map_cons, List.map_cons,
      permissionOutcome_subject, intentOutcome_subject]
    rfl

/-- **The call graph of an application has one outcome.** -/
theorem callGraphOutcome_subject (tools : Toolbox) (settings : Settings)
    (application : Application) (progress : Progress) :
    (callGraphOutcome tools settings application progress).1.subject =
      (application.name, .sensitiveApis) := by
  rcases saved : (saveSensitive tools settings application).run progress
    with ⟨failure | output, reached⟩
  · obtain ⟨told, outcome⟩ := callGraphOutcome_of_failure saved
    rw [outcome]
    rfl
  · rw [callGraphOutcome_of_table saved]
    rfl

/-! ### All applications -/

theorem manifests_subjects (parser : Xml.Parser) (tools : Toolbox) (settings : Settings)
    (applications : List Application) (progress : Progress) :
    (manifests parser tools settings applications progress).1.map Outcome.subject =
      Task.staticAnalysis.subjects applications := by
  have all := Step.mapM_map (manifestOutcomes_subjects parser tools settings) applications
  rw [manifests, Step.bind_apply, Step.bind_apply]
  show (List.flatten _).map Outcome.subject = _
  rw [List.map_flatten, all]
  rfl

theorem callGraphs_subjects (tools : Toolbox) (settings : Settings)
    (applications : List Application) (progress : Progress) :
    (callGraphs tools settings applications progress).1.map Outcome.subject =
      Task.dynamicAnalysis.subjects applications := by
  have all := Step.mapM_map (callGraphOutcome_subject tools settings) applications
  rw [callGraphs, Step.bind_apply, all]
  exact List.map_eq_flatMap

end Analysis

end ApkFeatures
