/-
**A batch only writes results.**

Without tools a batch reads artifacts, and no command is run. It writes tables of its applications,
merged tables and its report, and makes missing folders on the way to them. Everything else stays,
whether the batch succeeds or not.

* `allSubjects`, `places` — what a batch is about, and where its results lie.
* `MakesTables`, `CoversBatch`, `analyseBy_keeps` — what a batch keeps if the making of its results
  does.
* `coversBatch_touching` — where its results are made.
* `analyse_unaided` — without tools, it does not matter which tools there are.
* `analyseBy_touches`, `analyse_changes` — what a batch changes, and that it changes nothing else in
  whatever way its tasks are run.
-/
import ApkFeatures.Proofs.Analysis.Alike
import ApkFeatures.Proofs.Batch.Datasets

namespace ApkFeatures

open FilePath FileTree Analysis

/-- The applications of a folder; there are none if it cannot be read. -/
def Application.listed (directory : FilePath) (progress : Progress) : List Application :=
  ((Application.list directory).run progress).1.toOption.getD []

theorem Application.plain_listed (directory : FilePath) (progress : Progress) :
    ∀ application ∈ Application.listed directory progress, IsPlain application.name := by
  unfold Application.listed
  rcases found : (Application.list directory).run progress with ⟨failure | applications, reached⟩
  · exact fun _ absent => absurd absent List.not_mem_nil
  · exact fun application member => ((Application.list_spec found).2.2 application member).1

namespace Batch

variable {formats : Formats} {parser : Xml.Parser} {serializer : Serializer} {tools : Toolbox}
  {settings : Settings} {times : Times} {directory : FilePath}
  {applications twins : List Application} {run : List Application → Step (List TaskReport)}
  {base : Location} {relation : FileTree → FileTree → Prop} {folders : Location → Prop}

/-! ### Results -/

/-- What both tasks are about. -/
def allSubjects (applications : List Application) : List (String × Family) :=
  Task.staticAnalysis.subjects applications ++ Task.dynamicAnalysis.subjects applications

theorem mem_allSubjects {task : Task} {subject : String × Family}
    (member : subject ∈ task.subjects applications) : subject ∈ allSubjects applications := by
  cases task with
  | staticAnalysis => exact List.mem_append_left _ member
  | dynamicAnalysis => exact List.mem_append_right _ member

/-- What the tasks are about are the names of the applications. -/
theorem allSubjects_congr (same : applications.map Application.name = twins.map Application.name) :
    allSubjects applications = allSubjects twins := by
  have names (task : Task) (applications : List Application) : task.subjects applications =
      (applications.map Application.name).flatMap fun name =>
        task.families.map fun family => (name, family) := by
    rw [Task.subjects, List.flatMap_map]
  rw [allSubjects, names, names, same, ← names, ← names, allSubjects]

/-- What holds of the names of applications holds of those of others with the same names. -/
theorem forall_name_of_same {holds : String → Prop}
    (same : applications.map Application.name = twins.map Application.name)
    (each : ∀ application ∈ applications, holds application.name) :
    ∀ twin ∈ twins, holds twin.name := by
  rw [← List.forall_mem_map, ← same, List.forall_mem_map]
  exact each

theorem exists_of_mem_allSubjects {subject : String × Family}
    (member : subject ∈ allSubjects applications) :
    ∃ application ∈ applications, application.name = subject.1 := by
  have ofTask {task : Task} (member : subject ∈ task.subjects applications) :
      ∃ application ∈ applications, application.name = subject.1 := by
    obtain ⟨application, inside, ofSubject⟩ := List.mem_flatMap.mp member
    obtain ⟨family, -, rfl⟩ := List.mem_map.mp ofSubject
    exact ⟨application, inside, rfl⟩
  exact (List.mem_append.mp member).elim ofTask ofTask

/-- The tasks are about every family of every application. -/
theorem mem_allSubjects_of_mem {application : Application} (inside : application ∈ applications)
    (family : Family) : (application.name, family) ∈ allSubjects applications := by
  have ofTask (task : Task) (ofTask : family ∈ task.families) :
      (application.name, family) ∈ allSubjects applications :=
    mem_allSubjects (List.mem_flatMap.mpr ⟨application, inside, List.mem_map_of_mem ofTask⟩)
  cases family with
  | permissions => exact ofTask .staticAnalysis (by decide)
  | intents => exact ofTask .staticAnalysis (by decide)
  | sensitiveApis => exact ofTask .dynamicAnalysis (by decide)

/-- Where a batch writes: the tables of its applications, the merged tables, and its report. -/
def places (settings : Settings) (base : Location) (applications : List Application) :
    List Location :=
  (allSubjects applications).map (subjectPlace settings base) ++
    (Family.all.map (fun family => (settings.datasetFile family).placeFrom base) ++
      [settings.reportFile.placeFrom base])

/-! ### What a batch keeps -/

/-- The making of the results of a batch on some applications keeps a relation. -/
structure CoversBatch (relation : FileTree → FileTree → Prop) (settings : Settings)
    (applications : List Application) : Prop where
  /-- Tables can be made. -/
  tables : ∀ application ∈ applications, ∀ family,
    Covers relation (settings.tableFile family application.name)
  /-- Merged tables can be made. -/
  datasets : ∀ family, Covers relation (settings.datasetFile family)
  /-- The report can be made. -/
  report : Covers relation settings.reportFile
  /-- The folder of the results can be made. -/
  folder : ∀ tree : FileTree, relation tree (tree.createFolders settings.resultsFolder).2

/-- When the tasks are run in some way, nothing is done but what makes tables of applications. -/
def MakesTables (settings : Settings) (run : List Application → Step (List TaskReport)) : Prop :=
  ∀ {relation : FileTree → FileTree → Prop} [IsFrame relation] {applications : List Application},
    (∀ application ∈ applications, ∀ family,
      Covers relation (settings.tableFile family application.name)) →
    Step.Keeps relation (run applications)

/-- The tasks do nothing but make tables. -/
theorem runTasks_keeps (off : settings.extract = false) (tools : Toolbox) :
    MakesTables settings (runTasks parser tools settings) := by
  intro relation frame applications covers
  refine .mapM fun task _ => Step.Keeps.bind (.within task ?_) fun _ => .pure _
  cases task with
  | staticAnalysis =>
    refine (Step.Keeps.tell _ _ _).bind fun _ => Step.Keeps.bind ?_ fun _ => .pure _
    exact .mapM fun application inside =>
      manifestOutcomes_keeps off tools fun family _ => covers application inside family
  | dynamicAnalysis =>
    refine (Step.Keeps.tell _ _ _).bind fun _ => .mapM fun application inside => ?_
    exact callGraphOutcome_keeps off tools (covers application inside .sensitiveApis)

section Keeps

variable [IsFrame relation]

/-- Merging does nothing but make merged tables. -/
theorem mergeAll_keeps (covers : ∀ family, Covers relation (settings.datasetFile family))
    (report : BatchReport) : Step.Keeps relation (mergeAll settings report) := by
  unfold mergeAll
  split
  · exact .foldlM (fun report family _ => mergeFamily_keeps (covers family) report) report
  · exact .pure report

/-- **A batch does nothing but make its results**, if its tasks do nothing but make tables. -/
theorem analyseBy_keeps (makes : MakesTables settings run)
    (covers : CoversBatch relation settings applications) (times : Times)
    {progress reached : Progress}
    (listed : (Application.list directory).run progress = (.ok applications, reached)) :
    relation progress.tree
      ((analyseBy serializer settings times directory run).run progress).2.tree := by
  obtain ⟨sameTree, -, -⟩ := Application.list_spec listed
  obtain ⟨ready, readyTree, ran⟩ := @analyseBy_run serializer settings times _ _ run _ _ listed
  have whole := (makes covers.tables).bind fun tasks =>
    (mergeAll_keeps covers.datasets (begun times directory tasks)).bind fun merged =>
      publish_keeps serializer covers.report covers.folder (merged.finish times.finished)
  have kept := whole ready
  rw [readyTree, sameTree] at kept
  rw [ran]
  exact kept

end Keeps

/-! ### Where results are made -/

section Touching

variable (within : ∀ place, settings.Entered base place → folders place)

include within

/-- Making the folder of the results makes folders on the way to the tables only. -/
theorem createResults_touches {files : List Location} (tree : FileTree) :
    Touching base files folders tree (tree.createFolders settings.resultsFolder).2 :=
  fun started => ⟨(createFolders_onlyWrites tree _).mono (List.nil_subset _),
    (createFolders_onlyMakes tree _).mono fun place enters =>
      within place (Settings.entered_of_results (started ▸ enters))⟩

/-- **The results of a batch are made at their places**, and folders on the way only. -/
theorem coversBatch_touching (plain : ∀ application ∈ applications, IsPlain application.name) :
    CoversBatch (Touching base (places settings base applications) folders) settings
      applications where
  tables := fun application inside family =>
    covers_tableFile within (plain application inside) (List.mem_append_left _
      (List.mem_map_of_mem (mem_allSubjects_of_mem inside family)))
  datasets := fun family =>
    covers_result within family.isName_datasetName (List.mem_append_right _
      (List.mem_append_left _ (List.mem_map_of_mem family.mem_all)))
  report := covers_result within Settings.isName_reportName
    (List.mem_append_right _ (List.mem_append_right _ (List.mem_singleton_self _)))
  folder := createResults_touches within

end Touching

/-! ### No command is run -/

section Unaided

variable (off : settings.extract = false) (tools others : Toolbox)

include off

/-- What would be done if an artifact could not be reused does not matter. -/
theorem isReusable_bind_congr {α : Type} {first second : Bool → Trial α}
    (same : first true = second true) (artifact : FilePath) :
    Artifact.isReusable settings artifact >>= first =
      Artifact.isReusable settings artifact >>= second := by
  refine ExceptT.ext (funext fun progress => ?_)
  rw [Trial.run_bind, Trial.run_bind, isReusable_reading off]
  cases progress.tree.hasContent artifact with
  | true => exact congrArg (fun rest => rest.run progress) same
  | false => rfl

theorem extractManifest_unaided :
    Artifact.extractManifest tools settings = Artifact.extractManifest others settings := by
  funext application
  exact isReusable_bind_congr off (by rfl) _

theorem extractCallGraph_unaided :
    Artifact.extractCallGraph tools settings = Artifact.extractCallGraph others settings := by
  funext application
  exact isReusable_bind_congr off (by rfl) _

theorem manifestOutcomes_unaided :
    manifestOutcomes parser tools settings = manifestOutcomes parser others settings := by
  funext application
  unfold manifestOutcomes readManifest
  rw [extractManifest_unaided off tools others]

theorem callGraphOutcome_unaided :
    callGraphOutcome tools settings = callGraphOutcome others settings := by
  funext application
  unfold callGraphOutcome saveSensitive
  rw [extractCallGraph_unaided off tools others]

theorem runTask_unaided : runTask parser tools settings = runTask parser others settings := by
  funext applications task
  cases task with
  | staticAnalysis =>
    unfold runTask manifests
    rw [manifestOutcomes_unaided off tools others]
  | dynamicAnalysis =>
    unfold runTask callGraphs
    rw [callGraphOutcome_unaided off tools others]

/-- **Without tools it does not matter which tools there are**: no command is run. -/
theorem analyse_unaided (times : Times) (directory : FilePath) :
    analyse formats tools settings times directory =
      analyse formats others settings times directory := by
  unfold analyse runTasks
  rw [runTask_unaided off tools others]

end Unaided

/-! ### What a batch changes -/

/-- A batch that has no applications for want of a folder has done nothing. -/
theorem analyseBy_of_unlisted (times : Times) {progress : Progress} {failure : Failure}
    {reached : Progress}
    (unlisted : (Application.list directory).run progress = (.error failure, reached)) :
    (analyseBy serializer settings times directory run).run progress =
      (.error failure, progress) := by
  rw [analyseBy, Trial.run_bind]
  cases readable : progress.tree.list directory with
  | ok names =>
    obtain ⟨told, listed⟩ := Application.list_run readable
    cases unlisted.symm.trans listed
  | error fault =>
    rw [Application.list_of_unreadable readable] at unlisted ⊢
    cases unlisted
    rfl

/-- **A batch writes its results only**, and makes folders on the way to them only, in whatever way
its tasks are run, as long as they make nothing but tables. A batch that fails has done nothing. -/
theorem analyseBy_touches (makes : MakesTables settings run) (times : Times)
    (directory : FilePath) (before : Progress) :
    let after := (analyseBy serializer settings times directory run).run before
    let base := before.tree.workingFolder
    Touches (places settings base (Application.listed directory before)) (settings.Entered base)
        before.tree after.2.tree ∧
      ∀ failure, after.1 = .error failure → after.2 = before := by
  intro after base
  rcases found : (Application.list directory).run before with ⟨failure | applications, reached⟩
  · have ran : after = (.error failure, before) := analyseBy_of_unlisted times found
    rw [ran]
    exact ⟨⟨.refl _ _, .refl _ _⟩, fun _ _ => rfl⟩
  · obtain ⟨-, -, named⟩ := Application.list_spec found
    have same : Application.listed directory before = applications := by
      rw [Application.listed, found]
      rfl
    have covers := @coversBatch_touching settings applications base _ (fun _ entered => entered)
      fun application inside => (named application inside).1
    refine ⟨?_, fun failure failed => ?_⟩
    · rw [same]
      exact analyseBy_keeps makes covers times found rfl
    · obtain ⟨ready, -, ran⟩ := @analyseBy_run serializer settings times directory _ run _ _ found
      rw [show after = _ from ran] at failed
      cases failed

/-- **Without tools a batch only writes results.** No command is run. Whether the batch succeeds or
not, at every place what was there stays, besides tables of its applications, merged tables and the
report, in whose place no folder stood, and missing folders on the way to these. So every other path
gives the content that it gave before. A batch that fails has changed nothing. -/
theorem analyse_changes (off : settings.extract = false) (formats : Formats)
    (tools others : Toolbox) (times : Times) (directory : FilePath) (before : Progress) :
    let after := (analyse formats tools settings times directory).run before
    let base := before.tree.workingFolder
    let results := places settings base (Application.listed directory before)
    analyse formats tools settings times directory =
        analyse formats others settings times directory ∧
      after.2.tree.workingFolder = base ∧
      (∀ place, after.2.tree.lookup? place = before.tree.lookup? place ∨
        place ∈ results ∧ before.tree.lookup? place ≠ some .folder ∨
        before.tree.lookup? place = none ∧ after.2.tree.lookup? place = some .folder ∧
          settings.Entered base place) ∧
      (∀ path content, path.placeFrom base ∉ results → before.tree.read path = .ok content →
        after.2.tree.read path = .ok content) ∧
      ∀ failure, after.1 = .error failure → after.2 = before := by
  intro after base results
  have unaided := @analyse_unaided formats settings off tools others times directory
  obtain ⟨touches, failed⟩ := @analyseBy_touches formats.serializer settings _
    (runTasks_keeps off tools : MakesTables settings (runTasks formats.parser tools settings)) times
    directory before
  exact ⟨unaided, touches.writes.workingFolder, touches.lookup?,
    fun path content outside given => touches.writes.read outside given, failed⟩

/-- Artifacts are used as they are, and the path of the results has a step to the folder above. -/
def steppingUp : Settings := { extract := false, resultsFolder := .ofString "made/../out" }

/-- A manifest stays as it is, whatever tools there are. -/
theorem analyse_changes_sample :
    let clearing : Toolbox := fun _ _ => (.ended true [], .empty)
    let batch := analyse .own noTools steppingUp ⟨"first", "last"⟩ (.ofString "/")
    steppingUp.extract = false ∧
      (Application.listed (.ofString "/") ⟨oneManifest, []⟩).map Application.name = ["a"] ∧
      batch = analyse .own clearing steppingUp ⟨"first", "last"⟩ (.ofString "/") ∧
      oneManifest.read (steppingUp.manifestFile "a") =
        .ok (Text.encode "android.permission.INTERNET") ∧
      (batch.run ⟨oneManifest, []⟩).2.tree.read (steppingUp.manifestFile "a") =
        .ok (Text.encode "android.permission.INTERNET") := by
  intro clearing batch
  have outside : (steppingUp.manifestFile "a").placeFrom [] ∉ places steppingUp []
      (Application.listed (.ofString "/") ⟨oneManifest, []⟩) := by decide +kernel
  obtain ⟨unaided, -, -, reads, -⟩ := @analyse_changes steppingUp rfl .own noTools
    clearing ⟨"first", "last"⟩ (.ofString "/") ⟨oneManifest, []⟩
  exact ⟨rfl, by decide +kernel, unaided, rfl, reads _ _ outside rfl⟩

end Batch

end ApkFeatures
