/-
**The merged tables of a batch are those of its applications.**

Without tools a batch writes tables of applications, merged tables and its report, and nothing else.
So a table that an outcome reports is still there when the tables of its family are merged, with the
features of its application in it, and the merged table is still there when the batch has ended.

* `BatchReport.extracted`, `outputs_eq` — the applications that have a table, and their tables.
* `ReportsTables`, `runTasks_faithful` — the tasks write the tables that they report.
* `publish_writes` — the report is written at its place only.
* `Publishes`, `analyseBy_publishes`, `analyse_publishes` — what a batch leaves of every family, and
  that it does so in whatever way its tasks are run.
-/
import ApkFeatures.Proofs.Batch.Merging
import ApkFeatures.Proofs.Buffer

namespace ApkFeatures

open FileTree Analysis

/-- The names of the applications that have a table of a family, in the order of the report. -/
def BatchReport.extracted (report : BatchReport) (family : Family) : List String :=
  ((report.familyOutcomes family).filter Outcome.isExtracted).map Outcome.application

namespace Batch

variable {formats : Formats} {parser : Xml.Parser} {serializer : Serializer} {tools : Toolbox}
  {settings : Settings} {times : Times} {directory : FilePath} {applications : List Application}
  {run : List Application → Step (List TaskReport)} {base : Location} {family : Family}
  {report : BatchReport} {progress : Progress} {names : List String}

/-! ### Tables that are reported -/

theorem mem_extracted {name : String} (member : name ∈ report.extracted family) :
    ∃ outcome ∈ report.tasks.flatMap TaskReport.outcomes, outcome.application = name ∧
      outcome.family = family ∧ ∃ output, outcome.status = .extracted output := by
  obtain ⟨outcome, kept, named⟩ := List.mem_map.mp member
  obtain ⟨inFamily, isExtracted⟩ := List.mem_filter.mp kept
  obtain ⟨inReport, ofFamily⟩ := List.mem_filter.mp inFamily
  refine ⟨outcome, inReport, named, of_decide_eq_true ofFamily, ?_⟩
  rw [Outcome.isExtracted] at isExtracted
  split at isExtracted
  · exact ⟨_, ‹_›⟩
  · cases isExtracted

/-- The tables of a family are those of its applications, in order. -/
theorem outputs_eq {tree : FileTree}
    (tabled : ∀ outcome ∈ report.tasks.flatMap TaskReport.outcomes,
      Tabled parser settings tree outcome)
    (family : Family) :
    report.outputs family = (report.extracted family).map (settings.tableFile family) := by
  have inFamily : ∀ outcome ∈ report.familyOutcomes family,
      outcome.family = family ∧ Tabled parser settings tree outcome := fun outcome member =>
    ⟨of_decide_eq_true (List.mem_filter.mp member).2, tabled outcome (List.mem_filter.mp member).1⟩
  -- Both sides take what is written from the outcomes of the family, one by one.
  show (report.familyOutcomes family).filterMap Outcome.output? =
    (((report.familyOutcomes family).filter Outcome.isExtracted).map Outcome.application).map _
  generalize report.familyOutcomes family = outcomes at inFamily
  induction outcomes with
  | nil => rfl
  | cons outcome others ih =>
    have rest := ih fun later member => inFamily later (List.mem_cons_of_mem _ member)
    obtain ⟨sameFamily, ofTree⟩ := inFamily outcome List.mem_cons_self
    obtain ⟨application, itsFamily, status⟩ := outcome
    cases sameFamily
    cases status with
    | extracted output =>
      obtain ⟨same, -⟩ := ofTree output rfl
      exact List.cons_eq_cons.mpr ⟨same, rest⟩
    | skipped reason => exact rest

theorem extracted_congr {other : BatchReport} (tasks : report.tasks = other.tasks) :
    report.extracted = other.extracted := by
  funext family
  rw [BatchReport.extracted, BatchReport.familyOutcomes, tasks]
  rfl

/-- Every application of which a table is reported has this table, with its features. -/
theorem supplied_of_tabled {tree : FileTree}
    (tabled : ∀ outcome ∈ report.tasks.flatMap TaskReport.outcomes,
      Tabled parser settings tree outcome)
    (family : Family) : Supplied parser settings tree family (report.extracted family) := by
  intro name member
  obtain ⟨outcome, inReport, rfl, rfl, output, status⟩ := mem_extracted member
  obtain ⟨rfl, features, has, read⟩ := tabled outcome inReport output status
  exact ⟨features, has, read⟩

/-- The applications of a family can have lines in the same merged table. -/
theorem areRows_extracted
    (outcomes : ∀ family, (report.familyOutcomes family).map Outcome.application =
      applications.map Application.name)
    (distinct : (applications.map Application.name).Nodup)
    (named : ∀ application ∈ applications, IsPlain application.name ∧ application.name ≠ "")
    (oneLine : ∀ outcome ∈ report.tasks.flatMap TaskReport.outcomes,
      '\n' ∉ outcome.application.toList) (family : Family) :
    AreRows (report.extracted family) := by
  have within : (report.extracted family).Sublist (applications.map Application.name) := by
    rw [← outcomes family]
    exact List.filter_sublist.map Outcome.application
  have isNamed : ∀ name ∈ report.extracted family, IsPlain name ∧ name ≠ "" := by
    intro name member
    obtain ⟨application, inside, rfl⟩ := List.mem_map.mp (within.subset member)
    exact named application inside
  refine ⟨distinct.sublist within, fun name member => (isNamed name member).1,
    fun name member => (isNamed name member).2, fun name member => ?_⟩
  obtain ⟨outcome, inReport, rfl, -⟩ := mem_extracted member
  exact oneLine outcome inReport

/-! ### Both tasks -/

theorem plain_subjects (plain : ∀ application ∈ applications, IsPlain application.name) :
    ∀ subject ∈ Task.staticAnalysis.subjects applications ++
      Task.dynamicAnalysis.subjects applications, IsPlain subject.1 := by
  have ofTask (task : Task) : ∀ subject ∈ task.subjects applications, IsPlain subject.1 := by
    intro subject member
    obtain ⟨application, inside, ofSubject⟩ := List.mem_flatMap.mp member
    obtain ⟨family, -, rfl⟩ := List.mem_map.mp ofSubject
    exact plain application inside
  intro subject member
  rcases List.mem_append.mp member with inStatic | inDynamic
  · exact ofTask .staticAnalysis subject inStatic
  · exact ofTask .dynamicAnalysis subject inDynamic

/-- When the tasks are run in some way on applications with different names, both end with an
outcome for every application in turn, and write the tables that they report, and no others. -/
def ReportsTables (parser : Xml.Parser) (settings : Settings)
    (run : List Application → Step (List TaskReport)) : Prop :=
  ∀ {applications : List Application} {progress : Progress} {base : Location},
    (applications.map Application.name).Nodup →
    (∀ application ∈ applications, IsPlain application.name) →
    progress.tree.workingFolder = base →
    ∃ static dynamic, (run applications progress).1 =
        [.completed .staticAnalysis static, .completed .dynamicAnalysis dynamic] ∧
      static.map Outcome.subject = Task.staticAnalysis.subjects applications ∧
      dynamic.map Outcome.subject = Task.dynamicAnalysis.subjects applications ∧
      Faithful parser settings base
        (Task.staticAnalysis.subjects applications ++ Task.dynamicAnalysis.subjects applications)
        (static ++ dynamic) progress.tree (run applications progress).2.tree

/-- What one task is about the other one is not about. -/
theorem disjoint_subjects : ∀ subject ∈ Task.staticAnalysis.subjects applications,
    subject ∉ Task.dynamicAnalysis.subjects applications := by
  intro subject inStatic inDynamic
  obtain ⟨application, -, ofSubject⟩ := List.mem_flatMap.mp inStatic
  obtain ⟨family, ofStatic, rfl⟩ := List.mem_map.mp ofSubject
  obtain ⟨other, -, ofOther⟩ := List.mem_flatMap.mp inDynamic
  obtain ⟨otherFamily, ofDynamic, same⟩ := List.mem_map.mp ofOther
  cases (Prod.mk.inj same).2
  revert ofStatic ofDynamic
  cases family <;> decide

/-- **The tasks write the tables that they report**, and no table is written twice. -/
theorem runTasks_faithful (off : settings.extract = false) (tools : Toolbox) :
    ReportsTables parser settings (runTasks parser tools settings) := by
  intro applications progress base distinct plain start
  have static := @manifests_faithful parser settings { progress with told := [] } base applications
    off tools distinct plain start
  have dynamic := @callGraphs_faithful parser settings
    { (runTask parser tools settings applications .staticAnalysis progress).2 with told := [] } base
    applications off tools distinct plain (static.writes.workingFolder.trans start)
  exact ⟨_, _, rfl, static.about, dynamic.about,
    static.append start dynamic (plain_subjects plain) disjoint_subjects⟩

/-! ### The report -/

theorem save_keeps {relation : FileTree → FileTree → Prop} [IsFrame relation]
    (covers : Covers relation settings.reportFile)
    (folder : ∀ tree : FileTree, relation tree (tree.createFolders settings.resultsFolder).2)
    (report : BatchReport) : Trial.Keeps relation (report.save serializer settings) := by
  refine (Trial.Keeps.change _ folder).bind fun _ => ?_
  refine Trial.Keeps.bind (.of (.tell _ _ _)) fun _ => ?_
  refine (Trial.Keeps.write covers _ _).bind fun _ => ?_
  refine (Buffer.putAll_keeps covers _).bind fun kept => ?_
  unfold BatchReport.close
  split
  · exact Buffer.flush_keeps covers kept
  · exact (Trial.Keeps.of (Buffer.flush_keeps covers kept)).bind fun _ => .throw _

/-- Publishing a report only makes the file of the report. -/
theorem publish_keeps (serializer : Serializer) {relation : FileTree → FileTree → Prop}
    [IsFrame relation] (covers : Covers relation settings.reportFile)
    (folder : ∀ tree : FileTree, relation tree (tree.createFolders settings.resultsFolder).2)
    (report : BatchReport) : Step.Keeps relation (publish serializer settings report) := by
  refine Step.Keeps.bind (save_keeps covers folder report) fun saved => ?_
  cases saved with
  | ok done => exact .tellAll _
  | error failure => exact (Step.Keeps.tell _ _ _).bind fun _ => .tellAll _

theorem publish_writes (serializer : Serializer) (settings : Settings) (report : BatchReport)
    (base : Location) :
    Step.Keeps (Writing base [settings.reportFile.placeFrom base])
      (publish serializer settings report) :=
  publish_keeps serializer (covers_writing Settings.isName_reportName base)
    (fun tree _ => (createFolders_onlyWrites tree _).mono (List.nil_subset _)) report

/-! ### The whole batch -/

/-- A batch leaves merged tables of the tables that it reports, and nothing else has changed where
merged tables and artifacts lie. The writing of a merged table fails just where a folder stands in
its place. -/
structure Publishes (parser : Xml.Parser) (settings : Settings) (report : BatchReport)
    (before after : FileTree) : Prop where
  /-- Every family with tables has one merged table, in the order of the families, with as many rows
  as there are tables, if it can be written. -/
  datasets : report.datasets = (Family.all.filter fun family =>
      report.extracted family ≠ [] ∧ after.isFolder (settings.datasetFile family) = false).map
    fun family => ⟨family, settings.datasetFile family, (report.extracted family).length⟩
  /-- A merged table is made of the features of the applications that have a table. -/
  merged : ∀ family, report.extracted family ≠ [] →
    after.isFolder (settings.datasetFile family) = false →
      ∃ table, MergedFrom parser settings after family (report.extracted family) table
  /-- Of a family without tables, no merged table is made, changed or removed. -/
  untouched : ∀ family, report.extracted family = [] →
    ∀ place, after.locate (settings.datasetFile family) = .ok place → ∀ content executable,
      after.lookup? place = some (.file content executable) ↔
        before.lookup? place = some (.file content executable)
  /-- What artifacts say is what they said before. -/
  artifacts : ∀ family name, IsPlain name → ∀ features,
    HasFeatures parser settings before family name features →
      HasFeatures parser settings after family name features

section Phases

variable {named : Family → List String} {subjects : List (String × Family)}

/-- Where a batch writes: the tables of applications, the merged tables of the families of which
there are any, and the report. -/
def batchPlaces (settings : Settings) (base : Location) (subjects : List (String × Family))
    (named : Family → List String) : List Location :=
  subjects.map (subjectPlace settings base) ++
    (datasetPlaces settings base named Family.all ++ [settings.reportFile.placeFrom base])

theorem avoidsArtifacts_tables (base : Location) (plain : ∀ subject ∈ subjects, IsPlain subject.1) :
    Settings.AvoidsArtifacts (subjects.map (subjectPlace settings base)) := by
  intro place member
  obtain ⟨subject, inside, rfl⟩ := List.mem_map.mp member
  rw [subjectPlace, Settings.lastByte?_tablePlace (plain subject inside)]
  decide

theorem avoidsArtifacts_batchPlaces (plain : ∀ subject ∈ subjects, IsPlain subject.1) :
    Settings.AvoidsArtifacts (batchPlaces settings base subjects named) :=
  (avoidsArtifacts_tables base plain).append
    (avoidsArtifacts_datasetPlaces.append Settings.avoidsArtifacts_report)

/-- Where the merged table of a family without tables belongs, nothing is written. -/
theorem datasetPlace_notMem_batchPlaces (plain : ∀ subject ∈ subjects, IsPlain subject.1)
    (nothing : named family = []) :
    (settings.datasetFile family).placeFrom base ∉ batchPlaces settings base subjects named := by
  intro member
  rcases List.mem_append.mp member with inTables | later
  · obtain ⟨subject, inside, same⟩ := List.mem_map.mp inTables
    exact Settings.tablePlace_ne_datasetPlace (plain subject inside) same
  · rcases List.mem_append.mp later with inDatasets | isReport
    · obtain ⟨other, kept, same⟩ := List.mem_map.mp inDatasets
      have nonempty := of_decide_eq_true (List.mem_filter.mp kept).2
      rw [Settings.datasetPlace_inj.mp same] at nonempty
      exact nonempty nothing
    · exact Settings.datasetPlace_ne_reportPlace (List.mem_singleton.mp isReport)

/-- The merged tables are as they were when they were merged, after the report is written. -/
theorem mergedFrom_of_published {reached after : FileTree}
    {table : List (String × FeatureVector family.vocabulary)} (rows : AreRows names)
    (start : reached.workingFolder = base)
    (published : OnlyWrites [settings.reportFile.placeFrom base] reached after)
    (merged : MergedFrom parser settings reached family names table) :
    MergedFrom parser settings after family names table := by
  refine mergedFrom_of_onlyWrites merged rows.plain published Settings.avoidsArtifacts_report ?_
  rw [start, List.mem_singleton]
  exact Settings.datasetPlace_ne_reportPlace

/-- **The phases of a batch one after the other**: tables are written, then they are merged, then
the report is written. -/
theorem publishes_of_phases {before between reached after : FileTree} {begun merged : BatchReport}
    (start : before.workingFolder = base) (plain : ∀ subject ∈ subjects, IsPlain subject.1)
    (rows : ∀ family, AreRows (report.extracted family)) (fresh : begun.datasets = [])
    (same : report.datasets = merged.datasets)
    (tables : OnlyWrites (subjects.map (subjectPlace settings base)) before between)
    (merges :
      MergesAll parser settings base report.extracted Family.all begun merged between reached)
    (published : OnlyWrites [settings.reportFile.placeFrom base] reached after) :
    Publishes parser settings report before after := by
  have whole : OnlyWrites (batchPlaces settings base subjects report.extracted) before after :=
    (tables.mono (List.subset_append_left _ _)).trans
      (((merges.writes.mono (List.subset_append_left _ _)).trans
        (published.mono (List.subset_append_right _ _))).mono (List.subset_append_right _ _))
  have reachedStart : reached.workingFolder = base :=
    merges.writes.workingFolder.trans (tables.workingFolder.trans start)
  have isMerged (family : Family) (nonempty : report.extracted family ≠ [])
      (free : reached.isFolder (settings.datasetFile family) = false) :
      ∃ table, MergedFrom parser settings after family (report.extracted family) table := by
    obtain ⟨table, made⟩ := merges.merged family family.mem_all nonempty free
    exact ⟨table, mergedFrom_of_published (rows family) reachedStart published made⟩
  have wasFree (family : Family) (free : after.isFolder (settings.datasetFile family) = false) :
      reached.isFolder (settings.datasetFile family) = false :=
    Bool.eq_false_iff.mpr fun stands => by cases (published.isFolder stands).symm.trans free
  have staysFree (family : Family) (nonempty : report.extracted family ≠ [])
      (free : reached.isFolder (settings.datasetFile family) = false) :
      after.isFolder (settings.datasetFile family) = false := by
    obtain ⟨table, made⟩ := isMerged family nonempty free
    exact isFolder_of_read made.content
  refine ⟨?_, fun family nonempty free => isMerged family nonempty (wasFree family free),
    fun family nothing place located content executable => ?_,
    fun family name plainName features has => ?_⟩
  · rw [same, merges.datasets, fresh, List.nil_append]
    refine congrArg (List.map _) (List.filter_congr fun family _ => decide_eq_decide.mpr ?_)
    exact and_congr_right fun nonempty => ⟨staysFree family nonempty, wasFree family⟩
  · refine whole.file ?_
    rw [locate_place located, whole.workingFolder, start]
    exact datasetPlace_notMem_batchPlaces plain nothing
  · exact has.of_onlyWrites whole
      (Settings.artifactPlace_notMem plainName (avoidsArtifacts_batchPlaces plain))

end Phases

/-- A batch that has ended had its applications, ran the tasks, merged the tables and published its
report. -/
theorem analyseBy_phases {after : Progress}
    (ended : (analyseBy serializer settings times directory run).run progress =
      (.ok report, after)) :
    ∃ applications ready, (applications.map Application.name).Nodup ∧
      (∀ application ∈ applications, IsPlain application.name ∧ application.name ≠ "") ∧
      ready.tree = progress.tree ∧
      let ran := run applications ready
      let merged := mergeAll settings (begun times directory ran.1) ran.2
      report = merged.1.finish times.finished ∧
        after = (publish serializer settings report merged.2).2 := by
  rcases found : (Application.list directory).run progress with ⟨failure | applications, listed⟩
  · rw [analyseBy, Trial.run_bind, found] at ended
    cases ended
  · obtain ⟨sameTree, distinct, named⟩ := Application.list_spec found
    obtain ⟨ready, readyTree, ran⟩ :=
      @analyseBy_run serializer settings times directory _ run _ _ found
    rw [ran] at ended
    cases ended
    exact ⟨applications, ready, distinct, named, readyTree.trans sameTree, rfl, rfl⟩

/-- The tables that the tasks report are merged. -/
theorem mergeAll_spec (on : settings.merge = true)
    (tabled : ∀ outcome ∈ report.tasks.flatMap TaskReport.outcomes,
      Tabled parser settings progress.tree outcome)
    (rows : ∀ family, AreRows (report.extracted family)) :
    MergesAll parser settings progress.tree.workingFolder report.extracted Family.all report
      (mergeAll settings report progress).1 progress.tree
      (mergeAll settings report progress).2.tree := by
  rw [mergeAll, on, if_pos rfl]
  exact mergeFamilies_spec rows Family.nodup_all report progress rfl (outputs_eq tabled)
    (supplied_of_tabled tabled)

/-- **The merged tables of a batch are those of its applications**, in whatever way its tasks are
run, as long as they write the tables that they report. -/
theorem analyseBy_publishes {after : Progress} (reports : ReportsTables parser settings run)
    (ended : (analyseBy serializer settings times directory run).run progress =
      (.ok report, after))
    (on : settings.merge = true)
    (oneLine : ∀ outcome ∈ report.tasks.flatMap TaskReport.outcomes,
      '\n' ∉ outcome.application.toList) :
    Publishes parser settings report progress.tree after.tree := by
  obtain ⟨applications, ready, distinct, named, readyTree, reported, rfl⟩ := analyseBy_phases ended
  have plain : ∀ application ∈ applications, IsPlain application.name := fun application member =>
    (named application member).1
  have start : ready.tree.workingFolder = progress.tree.workingFolder := congrArg _ readyTree
  obtain ⟨static, dynamic, ranTasks, staticSubjects, dynamicSubjects, faithful⟩ :=
    reports distinct plain start
  generalize run applications ready = ran at reported ranTasks faithful ⊢
  obtain ⟨tasks, worked⟩ := ran
  dsimp only at reported ranTasks faithful ⊢
  subst ranTasks
  -- Merging leaves the reports of the tasks alone, so the outcomes that are reported in the end are
  -- those of the tables that were merged.
  have sameTasks : report.tasks = (begun times directory [.completed .staticAnalysis static,
      .completed .dynamicAnalysis dynamic]).tasks := by
    rw [reported]
    exact mergeAll_tasks ..
  have rows := areRows_extracted
    (familyOutcomes_applications sameTasks staticSubjects dynamicSubjects) distinct named oneLine
  have sameNames := extracted_congr sameTasks
  have merges := mergeAll_spec on (fun outcome member => faithful.tabled outcome (by
    rw [begun_tasks, List.flatMap_cons, List.flatMap_cons, List.flatMap_nil, List.append_nil]
      at member
    exact member)) (sameNames ▸ rows)
  rw [← sameNames] at merges
  have tables : OnlyWrites _ progress.tree worked.tree := readyTree ▸ faithful.writes
  have based : worked.tree.workingFolder = progress.tree.workingFolder := tables.workingFolder
  rw [based] at merges
  have published := publish_writes serializer settings report _ _
    (merges.writes.workingFolder.trans based)
  exact publishes_of_phases rfl (plain_subjects plain) rows rfl (by rw [reported]; rfl) tables
    merges published

/-- **The merged tables of a batch are those of its applications.** After a batch without tools in
which tables are merged, and in which the name of every application is on one line, every family has
a merged table of exactly the features of the applications with a table of the family, unless a
folder stands in its place; and the merged table of a family without tables is left alone. -/
theorem analyse_publishes (formats : Formats) (tools : Toolbox) (settings : Settings)
    (times : Times) (directory : FilePath) {progress after : Progress} {report : BatchReport}
    (ended : (analyse formats tools settings times directory).run progress = (.ok report, after))
    (off : settings.extract = false) (on : settings.merge = true)
    (oneLine : ∀ outcome ∈ report.tasks.flatMap TaskReport.outcomes,
      '\n' ∉ outcome.application.toList) :
    Publishes formats.parser settings report progress.tree after.tree :=
  analyseBy_publishes (runTasks_faithful off tools) ended on oneLine

/-! ### One application -/

section Sample

/-- A package with a manifest that is no XML document, and no folder for the tables. -/
def oneManifest : FileTree :=
  let one := FileTree.empty.put [] (Text.encode "a.apk") (.file [] false) folder_root (by decide)
  let two := one.put [] (Text.encode "manifests") .folder rfl (by decide)
  two.put [Text.encode "manifests"] (Text.encode "a_AndroidManifest.xml")
    (.file (Text.encode "android.permission.INTERNET") false) (by decide) (by decide)

/-- Artifacts are used as they are. -/
def asTheyAre : Settings := { extract := false }

/-- Tools that do nothing. -/
def noTools : Toolbox := fun _ tree => (.ended false [], tree)

variable {application : Application} (named : application.name = "a")
  (here : progress.tree = oneManifest)

include here

theorem saveTable_oneManifest (features : FeatureVector .permissions) :
    ∃ reached, (saveTable features (asTheyAre.tableFile .permissions "a")
      (Family.permissions.identifier? "a")).run progress = (.ok (), reached) := by
  obtain ⟨tree, told⟩ := progress
  obtain rfl : tree = oneManifest := here
  exact ⟨_, rfl⟩

include named

theorem readManifest_oneManifest :
    ∃ reached : Progress, (readManifest noTools asTheyAre application).run progress =
      (.ok "android.permission.INTERNET", reached) ∧ reached.tree = oneManifest := by
  obtain ⟨name, package⟩ := application
  obtain ⟨tree, told⟩ := progress
  obtain rfl : name = "a" := named
  obtain rfl : tree = oneManifest := here
  have read : oneManifest.readText (asTheyAre.manifestFile "a") =
      .ok "android.permission.INTERNET" := FileTree.readText_eq_ok_iff.mpr (by decide)
  obtain ⟨reached, found⟩ : ∃ reached, (Artifact.extractManifest noTools asTheyAre
      ⟨"a", package⟩).run ⟨oneManifest, told⟩ =
        (.ok (asTheyAre.manifestFile "a"), ⟨oneManifest, reached⟩) := ⟨_, rfl⟩
  rw [readManifest, Trial.run_bind, found]
  dsimp only
  rw [Trial.run_ask, read]
  exact ⟨⟨oneManifest, reached⟩, rfl, rfl⟩

theorem manifestOutcomes_oneManifest :
    ∃ intents, (manifestOutcomes parser noTools asTheyAre application progress).1 =
      [⟨"a", .permissions, .extracted (asTheyAre.tableFile .permissions "a")⟩,
        ⟨"a", .intents, intents⟩] := by
  obtain ⟨reached, had, still⟩ := readManifest_oneManifest named here
  have about := intentOutcome_subject parser asTheyAre application "android.permission.INTERNET"
    (permissionOutcome asTheyAre application "android.permission.INTERNET" reached).2
  have permissions : (permissionOutcome asTheyAre application "android.permission.INTERNET"
      reached).1 = ⟨"a", .permissions, .extracted (asTheyAre.tableFile .permissions "a")⟩ := by
    rw [permissionOutcome, Step.bind_apply]
    have stillHere : (Step.tellAll (Manifest.permissionMessages
        "android.permission.INTERNET".toList) reached).2.tree = oneManifest := still
    obtain ⟨later, saved⟩ := saveTable_oneManifest stillHere
      (Manifest.permissions "android.permission.INTERNET".toList)
    rw [← named] at saved ⊢
    rw [saveFamily_of_table saved]
  rw [manifestOutcomes_of_manifest had]
  dsimp only
  rw [permissions]
  rw [named] at about
  generalize (intentOutcome parser asTheyAre application "android.permission.INTERNET" _).1 = outcome
    at about ⊢
  obtain ⟨name, family, intents⟩ := outcome
  cases about
  exact ⟨intents, rfl⟩

theorem runTasks_oneManifest :
    ∃ intents sensitive, (runTasks parser noTools asTheyAre [application] progress).1 =
      [.completed .staticAnalysis
          [⟨"a", .permissions, .extracted (asTheyAre.tableFile .permissions "a")⟩,
            ⟨"a", .intents, intents⟩],
        .completed .dynamicAnalysis [⟨"a", .sensitiveApis, sensitive⟩]] := by
  obtain ⟨static, dynamic, ran, -, about⟩ :=
    runTasks_subjects parser noTools asTheyAre [application] progress
  rw [Task.subjects, List.flatMap_singleton, named] at about
  obtain ⟨⟨name, family, sensitive⟩, rfl, subject⟩ := List.map_eq_singleton_iff.mp about
  cases subject
  obtain ⟨intents, outcomes⟩ := @manifestOutcomes_oneManifest parser (Step.tell .manifests
    .info ("starting the static analysis of " ++ toString [application].length ++ " applications")
    { progress with told := [] }).2 application named here
  refine ⟨intents, sensitive, ?_⟩
  have first : static =
      (manifests parser noTools asTheyAre [application] { progress with told := [] }).1 := by
    have tasks := congrArg (fun reports => (reports.map TaskReport.outcomes).head?) ran
    exact (Option.some.inj tasks).symm
  rw [manifests, Step.bind_apply, Step.bind_apply, Step.mapM_cons] at first
  rw [ran, first]
  dsimp only
  rw [outcomes]
  rfl

end Sample

/-- A batch of one application, of which a table of permissions is reported. -/
theorem analyse_publishes_sample :
    ∃ report after, (analyse .own noTools asTheyAre ⟨"first", "last"⟩ (.ofString "/")).run
        ⟨oneManifest, []⟩ = (.ok report, after) ∧
      asTheyAre.extract = false ∧ asTheyAre.merge = true ∧
      (∀ outcome ∈ report.tasks.flatMap TaskReport.outcomes,
        '\n' ∉ outcome.application.toList) ∧
      report.extracted .permissions = ["a"] ∧
      Publishes Formats.own.parser asTheyAre report oneManifest after.tree := by
  have readable : oneManifest.list (.ofString "/") =
      .ok [Text.encode "manifests", Text.encode "a.apk"] := by decide
  obtain ⟨told, found⟩ := @Application.list_run _ ⟨oneManifest, []⟩ _ readable
  have names : (Application.select [] (Application.sorted
      (([Text.encode "manifests", Text.encode "a.apk"].map fun name =>
        (FilePath.ofString "/").join ⟨name⟩).filter oneManifest.isFile))).1.map Application.name =
      ["a"] := by decide +kernel
  obtain ⟨application, isListed, named⟩ := List.map_eq_singleton_iff.mp names
  rw [isListed] at found
  obtain ⟨ready, here, ended⟩ := @analyse_run .own noTools asTheyAre ⟨"first", "last"⟩
    _ _ _ _ found
  obtain ⟨intents, sensitive, ran⟩ := @runTasks_oneManifest Formats.own.parser _ _ named here
  generalize runTasks Formats.own.parser noTools asTheyAre [application] ready = tasks
    at ran ended
  obtain ⟨reports, worked⟩ := tasks
  dsimp only at ran ended
  have sameTasks :=
    mergeAll_tasks asTheyAre (begun ⟨"first", "last"⟩ (.ofString "/") reports) worked
  rw [ran, begun_tasks, ← ran] at sameTasks
  generalize mergeAll asTheyAre (begun ⟨"first", "last"⟩ (.ofString "/") reports) worked = merged
    at sameTasks ended
  have oneLine : ∀ outcome ∈ merged.1.tasks.flatMap TaskReport.outcomes,
      '\n' ∉ outcome.application.toList := by
    rw [sameTasks, ran]
    intro outcome member
    have inAll : outcome.application ∈ ["a", "a", "a"] := List.mem_map_of_mem member
    have isName : outcome.application = "a" := by simpa using inAll
    rw [isName]
    decide
  refine ⟨_, _, ended, rfl, rfl, oneLine, ?_, @analyse_publishes .own noTools
    asTheyAre ⟨"first", "last"⟩ (.ofString "/") ⟨oneManifest, []⟩ _ _ ended rfl rfl oneLine⟩
  show (((merged.1.tasks.flatMap TaskReport.outcomes).filter _).filter _).map _ = _
  rw [sameTasks, ran]
  rfl

end Batch

end ApkFeatures
