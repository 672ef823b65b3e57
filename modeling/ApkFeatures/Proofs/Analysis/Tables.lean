/-
**The tables of applications are what their artifacts say.**

Without tools an analysis reads artifacts and writes tables, and nothing else. A table that is
reported holds the features found in the artifact of its application, and neither the artifact nor
the table is touched again by the work on other applications.

* `Family.featuresOf?` — what a family finds in the content of an artifact.
* `Tabled` — a reported table is the one its application has to have.
* `Tabled.of_onlyWrites` — what is written elsewhere does not matter.
* `manifestOutcomes_faithful`, `callGraphOutcome_faithful` — one application.
* `mapM_faithful` — any number of applications with different names.
-/
import ApkFeatures.Proofs.Analysis.Reading

namespace ApkFeatures

/-- The features that a family finds in the content of an artifact, if it is one. -/
def Family.featuresOf? (parser : Xml.Parser) :
    (family : Family) → String → Option (FeatureVector family.vocabulary)
  | .permissions, manifest => some (Manifest.permissions manifest.toList)
  | .intents, manifest => (Manifest.intents parser manifest.toList).toOption
  | .sensitiveApis, source =>
    (CallGraph.load source.toList).toOption.map fun graph => graph.sensitiveCallers.features

namespace Analysis

open FilePath FileTree

variable {parser : Xml.Parser} {tools : Toolbox} {settings : Settings}
  {application : Application} {progress reached : Progress} {base : Location}
  {files : List Location}

/-- The application has the features in a family, by its artifact. -/
def HasFeatures (parser : Xml.Parser) (settings : Settings) (tree : FileTree) (family : Family)
    (application : String) (features : FeatureVector family.vocabulary) : Prop :=
  ∃ content, tree.readText (settings.artifactFile family application) = .ok content ∧
    family.featuresOf? parser content = some features

/-- A table that is reported lies where it should, and holds the features of its application. -/
def Tabled (parser : Xml.Parser) (settings : Settings) (tree : FileTree) (outcome : Outcome) :
    Prop :=
  ∀ output, outcome.status = .extracted output →
    output = settings.tableFile outcome.family outcome.application ∧
      ∃ features, HasFeatures parser settings tree outcome.family outcome.application features ∧
        tree.read output =
          .ok (Text.encode (features.csv (outcome.family.identifier? outcome.application)))

/-! ### What is written elsewhere -/

theorem HasFeatures.of_onlyWrites {before after : FileTree} {family : Family} {name : String}
    {features : FeatureVector family.vocabulary}
    (has : HasFeatures parser settings before family name features)
    (only : OnlyWrites files before after)
    (outside : (settings.artifactFile family name).placeFrom before.workingFolder ∉ files) :
    HasFeatures parser settings after family name features := by
  obtain ⟨content, read, found⟩ := has
  exact ⟨content, only.readText outside read, found⟩

theorem Tabled.of_onlyWrites {before after : FileTree} {outcome : Outcome}
    (tabled : Tabled parser settings before outcome) (only : OnlyWrites files before after)
    (artifact : (settings.artifactFile outcome.family outcome.application).placeFrom
      before.workingFolder ∉ files)
    (table : (settings.tableFile outcome.family outcome.application).placeFrom
      before.workingFolder ∉ files) : Tabled parser settings after outcome := by
  intro output extracted
  obtain ⟨same, features, has, read⟩ := tabled output extracted
  exact ⟨same, features, has.of_onlyWrites only artifact, only.read (same ▸ table) read⟩

theorem tabled_of_skipped {tree : FileTree} {name : String} {family : Family} {reason : String} :
    Tabled parser settings tree ⟨name, family, .skipped reason⟩ :=
  fun _ extracted => nomatch extracted

/-! ### One table -/

section Saving

variable {vocabulary : Vocabulary} {features : FeatureVector vocabulary} {folder : FilePath}
  {name : Bytes} {identifier? : Option Identifier}

theorem saveTable_writes (named : IsName name) :
    Trial.Keeps (Writing base [(folder.join ⟨name⟩).placeFrom base])
      (saveTable features (folder.join ⟨name⟩) identifier?) :=
  saveTable_keeps (covers_writing named base)

/-- A table that was written can be read. -/
theorem read_of_saveTable (named : IsName name)
    (saved : (saveTable features (folder.join ⟨name⟩) identifier?).run progress =
      (.ok (), reached)) :
    reached.tree.read (folder.join ⟨name⟩) = .ok (Text.encode (features.csv identifier?)) := by
  rw [saveTable_run named] at saved
  split at saved
  · cases saved
  · split at saved
    · cases saved
    · rename_i written
      cases saved
      exact read_of_write_join named written

end Saving

/-! ### Artifacts without tools -/

section Artifacts

variable (off : settings.extract = false)

include off

/-- **A manifest is read from where it lies**, and nothing is written. -/
theorem readManifest_run (tools : Toolbox) (application : Application) (progress : Progress) :
    (∃ told manifest, (readManifest tools settings application).run progress =
        (.ok manifest, { progress with told := told }) ∧
        progress.tree.readText (settings.manifestFile application.name) = .ok manifest) ∨
      ∃ told failure, (readManifest tools settings application).run progress =
        (.error failure, { progress with told := told }) := by
  obtain ⟨told, ran⟩ := readManifest_reading off tools application progress
  rw [ran]
  cases had : reading progress.tree .readFile (settings.manifestFile application.name) with
  | ok manifest => exact .inl ⟨told, manifest, rfl, reading_eq_ok had⟩
  | error failure => exact .inr ⟨told, failure, rfl⟩

/-- **The sensitive methods saved for an application are those of its call graph.** -/
theorem saveSensitive_run (tools : Toolbox) (application : Application) (progress : Progress) :
    (∃ told features,
        HasFeatures parser settings progress.tree .sensitiveApis application.name features ∧
        (saveSensitive tools settings application).run progress =
          (saveTable features (settings.tableFile .sensitiveApis application.name)
            (Family.sensitiveApis.identifier? application.name) >>= fun _ =>
              pure (settings.tableFile .sensitiveApis application.name)).run
            { progress with told := told }) ∨
      ∃ told failure, (saveSensitive tools settings application).run progress =
        (.error failure, { progress with told := told }) := by
  obtain ⟨told, ran⟩ := saveSensitive_reading off tools application progress
  rw [ran]
  cases had : callGraphIn settings progress.tree application.name with
  | error failure => exact .inr ⟨told, failure, rfl⟩
  | ok graph =>
    obtain ⟨source, read, loaded⟩ := Fallible.bind_eq_ok_iff.mp had
    refine .inl ⟨told, graph.sensitiveCallers.features, ⟨source, reading_eq_ok read, ?_⟩, rfl⟩
    rw [Family.featuresOf?, Fallible.mapError_eq_ok_iff.mp loaded]
    rfl

end Artifacts

/-! ### Faithful work -/

/-- Where the table of an application and a family lies. -/
def subjectPlace (settings : Settings) (base : Location) (subject : String × Family) : Location :=
  (settings.tableFile subject.2 subject.1).placeFrom base

/-- Work on some applications and families that has an outcome for each in turn, writes their tables
only, and leaves every reported table as it has to be. -/
structure Faithful (parser : Xml.Parser) (settings : Settings) (base : Location)
    (subjects : List (String × Family)) (outcomes : List Outcome) (before after : FileTree) :
    Prop where
  /-- There is an outcome for each, in order. -/
  about : outcomes.map Outcome.subject = subjects
  /-- No other file is written. -/
  writes : OnlyWrites (subjects.map (subjectPlace settings base)) before after
  /-- Every reported table is the one its application has to have. -/
  tabled : ∀ outcome ∈ outcomes, Tabled parser settings after outcome

namespace Faithful

variable {first second : List (String × Family)} {outcomes more : List Outcome}
  {before between after : FileTree}

theorem nil (settings : Settings) (base : Location) (tree : FileTree) :
    Faithful parser settings base [] [] tree tree where
  about := rfl
  writes := .refl [] tree
  tabled := fun _ member => nomatch member

theorem skipped (name : String) (family : Family) (reason : String) (tree : FileTree) :
    Faithful parser settings base [(name, family)] [⟨name, family, .skipped reason⟩] tree tree where
  about := rfl
  writes := .refl _ tree
  tabled := fun outcome member => by
    rw [List.mem_singleton.mp member]
    exact tabled_of_skipped

/-- **Faithful work is not undone by other faithful work.** -/
theorem append (start : before.workingFolder = base)
    (done : Faithful parser settings base first outcomes before between)
    (later : Faithful parser settings base second more between after)
    (plain : ∀ subject ∈ first ++ second, IsPlain subject.1)
    (apart : ∀ subject ∈ first, subject ∉ second) :
    Faithful parser settings base (first ++ second) (outcomes ++ more) before after where
  about := by rw [List.map_append, done.about, later.about]
  writes := by
    rw [List.map_append]
    exact (done.writes.mono (List.subset_append_left _ _)).trans
      (later.writes.mono (List.subset_append_right _ _))
  tabled := by
    intro outcome member
    -- An early outcome has to survive the later work, which writes the tables of other subjects.
    rcases List.mem_append.mp member with early | late
    · have subject : outcome.subject ∈ first := by
        rw [← done.about]
        exact List.mem_map_of_mem early
      have plainName := plain outcome.subject (List.mem_append_left second subject)
      have started : between.workingFolder = base := done.writes.workingFolder.trans start
      have clear (place : Location) (different : ∀ other ∈ second,
          place ≠ subjectPlace settings base other) :
          place ∉ second.map (subjectPlace settings base) := fun inside => by
        obtain ⟨other, otherMember, same⟩ := List.mem_map.mp inside
        exact different other otherMember same.symm
      refine (done.tabled outcome early).of_onlyWrites later.writes
        (clear _ fun other otherMember => ?_) (clear _ fun other otherMember => ?_)
      · exact Settings.artifactPlace_ne plainName (Settings.lastByte?_tablePlace
          (plain other (List.mem_append_right first otherMember))) (by decide)
      · rw [started]
        intro same
        obtain ⟨family, name⟩ := (Settings.tablePlace_inj plainName
          (plain other (List.mem_append_right first otherMember))).mp same
        have isOther : outcome.subject = other := Prod.ext name family
        exact apart outcome.subject subject (isOther ▸ otherMember)
    · exact later.tabled outcome late

end Faithful

/-! ### One application -/

section Saved

variable {family : Family} {features : FeatureVector family.vocabulary} {failure : Failure}
  (plain : IsPlain application.name) (start : progress.tree.workingFolder = base)

include plain start

/-- A table that was written is as it has to be. -/
theorem faithful_of_table
    (has : HasFeatures parser settings progress.tree family application.name features)
    (saved : (saveTable features (settings.tableFile family application.name)
      (family.identifier? application.name)).run progress = (.ok (), reached)) :
    Faithful parser settings base [(application.name, family)]
      [⟨application.name, family, .extracted (settings.tableFile family application.name)⟩]
      progress.tree reached.tree := by
  have named := Settings.isName_tableName plain
  have writes : OnlyWrites [(settings.tableFile family application.name).placeFrom base]
      progress.tree reached.tree := by
    have footprint := @saveTable_writes base _ features (settings.familyFolder family) _
      (family.identifier? application.name) named progress start
    exact congrArg (·.2.tree) saved ▸ footprint
  refine ⟨rfl, writes, fun outcome member => ?_⟩
  rw [List.mem_singleton.mp member]
  intro output extracted
  cases extracted
  refine ⟨rfl, features, has.of_onlyWrites writes ?_, read_of_saveTable named saved⟩
  rw [start, List.mem_singleton]
  exact Settings.artifactPlace_ne plain (Settings.lastByte?_tablePlace plain) (by decide)

/-- A table that could not be written is reported as such. -/
theorem faithful_of_failure (reason : String)
    (unsaved : (saveTable features (settings.tableFile family application.name)
      (family.identifier? application.name)).run progress = (.error failure, reached)) :
    Faithful parser settings base [(application.name, family)]
      [⟨application.name, family, .skipped reason⟩] progress.tree reached.tree := by
  have footprint := @saveTable_writes base _ features (settings.familyFolder family) _
    (family.identifier? application.name) (Settings.isName_tableName plain) progress start
  refine ⟨rfl, congrArg (·.2.tree) unsaved ▸ footprint, fun outcome member => ?_⟩
  rw [List.mem_singleton.mp member]
  exact tabled_of_skipped

/-- Saving the features of an application is faithful, also if its table cannot be written. -/
theorem saveFamily_faithful
    (has : HasFeatures parser settings progress.tree family application.name features) :
    Faithful parser settings base [(application.name, family)]
      [(saveFamily settings application family features progress).1] progress.tree
      (saveFamily settings application family features progress).2.tree := by
  rcases saved : (saveTable features (settings.tableFile family application.name)
    (family.identifier? application.name)).run progress with ⟨failure | written, reached⟩
  · obtain ⟨told, outcome⟩ := saveFamily_of_failure saved
    rw [outcome]
    have done := @faithful_of_failure parser settings application progress reached base family
      features failure plain start failure.message saved
    exact done
  · rw [saveFamily_of_table saved]
    exact faithful_of_table plain start has saved

end Saved

theorem intentOutcome_faithful {manifest : String} (plain : IsPlain application.name)
    (start : progress.tree.workingFolder = base)
    (read : progress.tree.readText (settings.manifestFile application.name) = .ok manifest) :
    Faithful parser settings base [(application.name, .intents)]
      [(intentOutcome parser settings application manifest progress).1] progress.tree
      (intentOutcome parser settings application manifest progress).2.tree := by
  rw [intentOutcome, Step.bind_apply]
  cases found : Manifest.intents parser manifest.toList with
  | ok intents =>
    exact @saveFamily_faithful parser settings application ⟨progress.tree, _⟩ base .intents intents plain
      start ⟨manifest, read, by rw [Family.featuresOf?, found]; rfl⟩
  | error fault => exact .skipped _ _ _ _

/-- **The manifest of an application is analysed faithfully.** -/
theorem manifestOutcomes_faithful (off : settings.extract = false) (tools : Toolbox)
    (plain : IsPlain application.name) (start : progress.tree.workingFolder = base) :
    Faithful parser settings base
      (Task.staticAnalysis.families.map fun family => (application.name, family))
      (manifestOutcomes parser tools settings application progress).1 progress.tree
      (manifestOutcomes parser tools settings application progress).2.tree := by
  rcases readManifest_run off tools application progress with
    ⟨told, manifest, had, read⟩ | ⟨told, failure, missed⟩
  · rw [manifestOutcomes_of_manifest had]
    have permissions : Faithful parser settings base [(application.name, .permissions)]
        [(permissionOutcome settings application manifest { progress with told := told }).1]
        progress.tree
        (permissionOutcome settings application manifest { progress with told := told }).2.tree :=
      @saveFamily_faithful parser settings application ⟨progress.tree, _⟩ base .permissions
        (Manifest.permissions manifest.toList) plain start ⟨manifest, read, rfl⟩
    have untouched :
        (settings.manifestFile application.name).placeFrom progress.tree.workingFolder ∉
          [(application.name, Family.permissions)].map (subjectPlace settings base) := by
      rw [List.map_singleton, List.mem_singleton]
      exact @Settings.artifactPlace_ne settings .permissions _ _ _ _ plain
        (Settings.lastByte?_tablePlace plain) (by decide)
    refine permissions.append start (intentOutcome_faithful plain
      (permissions.writes.workingFolder.trans start)
      (permissions.writes.readText untouched read)) ?_ ?_
    · simpa using plain
    · simp
  · obtain ⟨told, outcomes⟩ := manifestOutcomes_of_failure missed
    rw [outcomes]
    refine (Faithful.skipped application.name .permissions failure.message progress.tree).append
      start (.skipped application.name .intents failure.message progress.tree) ?_ ?_
    · simpa using plain
    · simp

/-- **The call graph of an application is analysed faithfully.** -/
theorem callGraphOutcome_faithful (off : settings.extract = false) (tools : Toolbox)
    (plain : IsPlain application.name) (start : progress.tree.workingFolder = base) :
    Faithful parser settings base [(application.name, .sensitiveApis)]
      [(callGraphOutcome tools settings application progress).1] progress.tree
      (callGraphOutcome tools settings application progress).2.tree := by
  rcases saveSensitive_run off tools application progress with
    ⟨told, features, has, ran⟩ | ⟨told, failure, missed⟩
  · rcases saved : (saveTable features (settings.tableFile .sensitiveApis application.name)
      (Family.sensitiveApis.identifier? application.name)).run { progress with told := told }
      with ⟨failure | written, reached⟩
    · rw [Trial.run_bind, saved] at ran
      obtain ⟨_, outcome⟩ := callGraphOutcome_of_failure ran
      have done := @faithful_of_failure parser settings application ⟨progress.tree, told⟩ reached base
        .sensitiveApis features failure plain start failure.message saved
      rw [outcome]
      exact done
    · rw [Trial.run_bind, saved] at ran
      rw [callGraphOutcome_of_table ran]
      exact @faithful_of_table parser settings application ⟨progress.tree, told⟩ reached base
        .sensitiveApis features plain start has saved
  · obtain ⟨told, outcome⟩ := callGraphOutcome_of_failure missed
    rw [outcome]
    exact .skipped application.name .sensitiveApis failure.message progress.tree

/-! ### All applications -/

/-- **Work on applications with different names is faithful if it is on each of them.** -/
theorem mapM_faithful {β : Type} {step : Application → Step β} {seen : β → List Outcome}
    {families : List Family}
    (each : ∀ {application progress}, IsPlain application.name →
      progress.tree.workingFolder = base →
      Faithful parser settings base (families.map fun family => (application.name, family))
        (seen (step application progress).1) progress.tree (step application progress).2.tree)
    {applications : List Application} (distinct : (applications.map Application.name).Nodup)
    (plain : ∀ application ∈ applications, IsPlain application.name) :
    ∀ progress : Progress, progress.tree.workingFolder = base →
      Faithful parser settings base
        (applications.flatMap fun application =>
          families.map fun family => (application.name, family))
        ((applications.mapM step progress).1.flatMap seen) progress.tree
        (applications.mapM step progress).2.tree := by
  induction applications with
  | nil => exact fun progress _ => .nil settings base progress.tree
  | cons application rest ih =>
    intro progress start
    rw [List.map_cons, List.nodup_cons] at distinct
    rw [Step.mapM_cons, List.flatMap_cons, List.flatMap_cons]
    have first := each (plain application List.mem_cons_self) start
    have others := ih distinct.2 (fun other member => plain other (List.mem_cons_of_mem _ member))
      (step application progress).2 (first.writes.workingFolder.trans start)
    refine first.append start others ?_ ?_
    · intro subject member
      rcases List.mem_append.mp member with here | later
      · obtain ⟨family, -, rfl⟩ := List.mem_map.mp here
        exact plain application List.mem_cons_self
      · obtain ⟨other, inRest, found⟩ := List.mem_flatMap.mp later
        obtain ⟨family, -, rfl⟩ := List.mem_map.mp found
        exact plain other (List.mem_cons_of_mem _ inRest)
    · intro subject here later
      obtain ⟨family, -, rfl⟩ := List.mem_map.mp here
      obtain ⟨other, inRest, found⟩ := List.mem_flatMap.mp later
      obtain ⟨family, -, same⟩ := List.mem_map.mp found
      exact distinct.1 (List.mem_map.mpr ⟨other, inRest, congrArg Prod.fst same⟩)

section All

variable {applications : List Application} (off : settings.extract = false) (tools : Toolbox)
  (distinct : (applications.map Application.name).Nodup)
  (plain : ∀ application ∈ applications, IsPlain application.name)
  (start : progress.tree.workingFolder = base)

include off distinct plain start

theorem manifests_faithful :
    Faithful parser settings base (Task.staticAnalysis.subjects applications)
      (manifests parser tools settings applications progress).1 progress.tree
      (manifests parser tools settings applications progress).2.tree := by
  have all := @mapM_faithful parser settings base _ (manifestOutcomes parser tools settings) id
    Task.staticAnalysis.families
    (fun plain start => manifestOutcomes_faithful off tools plain start)
    applications distinct plain (Step.tell .manifests .info ("starting the static analysis of " ++
      toString applications.length ++ " applications") progress).2 start
  rw [List.flatMap_id] at all
  exact all

theorem callGraphs_faithful :
    Faithful parser settings base (Task.dynamicAnalysis.subjects applications)
      (callGraphs tools settings applications progress).1 progress.tree
      (callGraphs tools settings applications progress).2.tree := by
  have all := @mapM_faithful parser settings base _ (callGraphOutcome tools settings)
    (fun outcome => [outcome]) Task.dynamicAnalysis.families
    (fun plain start => callGraphOutcome_faithful off tools plain start)
    applications distinct plain (Step.tell .callGraphs .info ("starting the dynamic analysis of " ++
      toString applications.length ++ " applications") progress).2 start
  rw [List.flatMap_singleton'] at all
  exact all

end All

end Analysis

end ApkFeatures
