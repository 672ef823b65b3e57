/-
**Every application is accounted for once in every family.**

A batch on a folder that can be read reports both tasks, whatever becomes of single applications,
and every task reports them in turn. So no application is lost or reported twice.

* `runTask_subjects` — what the outcomes of a task are about.
* `analyseBy_run`, `analyse_run` — what a batch does once it has its applications.
* `familyOutcomes_applications` — the outcomes of a family are one for every application.
* `Accounts`, `analyse_accounts` — the report of a batch accounts for its applications.
-/
import ApkFeatures.Batch
import ApkFeatures.Proofs.Analysis.Outcomes
import ApkFeatures.Proofs.Application
import Mathlib.Data.List.Nodup

namespace ApkFeatures

/-- The outcomes of a family, task by task. -/
def BatchReport.familyOutcomes (report : BatchReport) (family : Family) : List Outcome :=
  (report.tasks.flatMap TaskReport.outcomes).filter fun outcome => outcome.family = family

namespace Batch

variable {formats : Formats} {parser : Xml.Parser} {serializer : Serializer} {tools : Toolbox}
  {settings : Settings} {times : Times} {directory : FilePath} {applications : List Application}
  {run : List Application → Step (List TaskReport)}

/-! ### Tasks -/

/-- A task ends, and its outcomes are about every application in turn. -/
theorem runTask_subjects (parser : Xml.Parser) (tools : Toolbox) (settings : Settings)
    (applications : List Application) (task : Task) (progress : Progress) :
    ∃ outcomes,
      (runTask parser tools settings applications task progress).1 = .completed task outcomes ∧
      outcomes.map Outcome.subject = task.subjects applications := by
  cases task with
  | staticAnalysis =>
    exact ⟨_, rfl, Analysis.manifests_subjects parser tools settings applications _⟩
  | dynamicAnalysis => exact ⟨_, rfl, Analysis.callGraphs_subjects tools settings applications _⟩

theorem runTasks_subjects (parser : Xml.Parser) (tools : Toolbox) (settings : Settings)
    (applications : List Application) (progress : Progress) :
    ∃ static dynamic, (runTasks parser tools settings applications progress).1 =
        [.completed .staticAnalysis static, .completed .dynamicAnalysis dynamic] ∧
      static.map Outcome.subject = Task.staticAnalysis.subjects applications ∧
      dynamic.map Outcome.subject = Task.dynamicAnalysis.subjects applications := by
  rw [runTasks, Task.all, Step.mapM_cons, Step.mapM_cons]
  obtain ⟨static, ran, subjects⟩ :=
    runTask_subjects parser tools settings applications .staticAnalysis progress
  obtain ⟨dynamic, ranNext, subjectsNext⟩ := runTask_subjects parser tools settings applications
    .dynamicAnalysis (runTask parser tools settings applications .staticAnalysis progress).2
  exact ⟨static, dynamic, by rw [ran, ranNext]; rfl, subjects, subjectsNext⟩

/-! ### A batch -/

theorem begun_tasks (times : Times) (directory : FilePath) (static dynamic : TaskReport) :
    (begun times directory [static, dynamic]).tasks = [static, dynamic] := rfl

/-- **A batch that has its applications ends with a report**: the tasks are run, their tables are
merged and the report is published. -/
theorem analyseBy_run {progress listed : Progress}
    (found : (Application.list directory).run progress = (.ok applications, listed)) :
    ∃ ready : Progress, ready.tree = listed.tree ∧
      let ran := run applications ready
      let merged := mergeAll settings (begun times directory ran.1) ran.2
      let report := merged.1.finish times.finished
      (analyseBy serializer settings times directory run).run progress =
        (.ok report, (publish serializer settings report merged.2).2) := by
  refine ⟨(Step.tell .batch .info ("found " ++ toString applications.length ++
    " applications in `" ++ directory.shown ++ "`") listed).2, rfl, ?_⟩
  rw [analyseBy, Trial.run_bind, found]
  simp only [Trial.tell, Trial.run_of_bind, Trial.run_pure]

theorem analyse_run {progress listed : Progress}
    (found : (Application.list directory).run progress = (.ok applications, listed)) :
    ∃ ready : Progress, ready.tree = listed.tree ∧
      let ran := runTasks formats.parser tools settings applications ready
      let merged := mergeAll settings (begun times directory ran.1) ran.2
      let report := merged.1.finish times.finished
      (analyse formats tools settings times directory).run progress =
        (.ok report, (publish formats.serializer settings report merged.2).2) :=
  analyseBy_run found

section Merging

variable {report : BatchReport} {family : Family} {progress reached : Progress}

theorem mergeFamily_of_none (none : report.outputs family = []) :
    ∃ told, mergeFamily settings report family progress =
      (report, { progress with told := told }) := by
  rw [mergeFamily, none]
  exact ⟨_, rfl⟩

theorem mergeFamily_of_dataset {dataset : Dataset} (some : report.outputs family ≠ [])
    (merged : (Dataset.merge family (report.outputs family) (settings.datasetFile family)).run
      progress = (.ok dataset, reached)) :
    mergeFamily settings report family progress = (report.addDataset dataset, reached) := by
  obtain ⟨first, others, outputs⟩ := List.exists_cons_of_ne_nil some
  rw [outputs] at merged
  simp only [mergeFamily, outputs]
  rw [Step.bind_apply, merged]
  rfl

theorem mergeFamily_of_failure {failure : Failure} (some : report.outputs family ≠ [])
    (refused : (Dataset.merge family (report.outputs family) (settings.datasetFile family)).run
      progress = (.error failure, reached)) :
    ∃ told, mergeFamily settings report family progress =
      (report, { reached with told := told }) := by
  obtain ⟨first, others, outputs⟩ := List.exists_cons_of_ne_nil some
  rw [outputs] at refused
  simp only [mergeFamily, outputs]
  rw [Step.bind_apply, refused]
  exact ⟨_, rfl⟩

end Merging

/-- Merging a family leaves the reports of the tasks alone. -/
theorem mergeFamily_tasks (settings : Settings) (report : BatchReport) (family : Family)
    (progress : Progress) :
    (mergeFamily settings report family progress).1.tasks = report.tasks := by
  by_cases outputs : report.outputs family = []
  · obtain ⟨told, same⟩ := @mergeFamily_of_none settings report family progress outputs
    rw [same]
  · rcases merged : (Dataset.merge family (report.outputs family)
      (settings.datasetFile family)).run progress with ⟨failure | dataset, reached⟩
    · obtain ⟨told, same⟩ := mergeFamily_of_failure outputs merged
      rw [same]
    · rw [mergeFamily_of_dataset outputs merged]
      rfl

theorem mergeAll_tasks (settings : Settings) (report : BatchReport) (progress : Progress) :
    (mergeAll settings report progress).1.tasks = report.tasks := by
  rw [mergeAll]
  cases settings.merge with
  | true => exact Step.foldlM_observe (mergeFamily_tasks settings) Family.all report progress
  | false => rfl

/-! ### The outcomes of a family -/

/-- What a task has to report on a family: all applications, or none if the family is not its
own. -/
theorem filter_subjects (task : Task) (applications : List Application) (family : Family) :
    (task.subjects applications).filter (fun subject => subject.2 = family) =
      if family ∈ task.families then applications.map fun application => (application.name, family)
      else [] := by
  rw [Task.subjects, List.filter_flatMap]
  cases task <;> cases family <;>
    simp [Task.families, List.map_eq_flatMap]

/-- **The outcomes of a family are one for every application, in their order.** -/
theorem familyOutcomes_applications {report : BatchReport} {static dynamic : List Outcome}
    (tasks : report.tasks =
      [.completed .staticAnalysis static, .completed .dynamicAnalysis dynamic])
    (staticSubjects : static.map Outcome.subject = Task.staticAnalysis.subjects applications)
    (dynamicSubjects : dynamic.map Outcome.subject = Task.dynamicAnalysis.subjects applications)
    (family : Family) :
    (report.familyOutcomes family).map Outcome.application =
      applications.map Application.name := by
  have subjects : (report.familyOutcomes family).map Outcome.subject =
      applications.map fun application => (application.name, family) := by
    have both : (report.tasks.flatMap TaskReport.outcomes).map Outcome.subject =
        Task.staticAnalysis.subjects applications ++
          Task.dynamicAnalysis.subjects applications := by
      rw [tasks, ← staticSubjects, ← dynamicSubjects, ← List.map_append]
      simp [TaskReport.completed]
    have kept := congrArg (List.filter fun subject => decide (subject.2 = family)) both
    rw [List.filter_map, List.filter_append, filter_subjects, filter_subjects] at kept
    refine Eq.trans kept ?_
    cases family <;> simp [Task.families]
  have names := congrArg (List.map Prod.fst) subjects
  rw [List.map_map, List.map_map] at names
  exact names

/-- The tables of a family and its outcomes without one are all its outcomes. -/
theorem outputs_add_skipped (report : BatchReport) (family : Family) :
    (report.outputs family).length +
        ((report.tasks.flatMap TaskReport.skipped).filter fun outcome =>
          outcome.family = family).length =
      (report.familyOutcomes family).length := by
  have skipped : (report.tasks.flatMap TaskReport.skipped).filter
      (fun outcome => outcome.family = family) =
        (report.familyOutcomes family).filter fun outcome => !outcome.isExtracted := by
    have all : report.tasks.flatMap TaskReport.skipped =
        (report.tasks.flatMap TaskReport.outcomes).filter fun outcome => !outcome.isExtracted := by
      rw [List.filter_flatMap]
      rfl
    rw [all, BatchReport.familyOutcomes, List.filter_filter, List.filter_filter]
    exact List.filter_congr fun outcome _ => Bool.and_comm _ _
  have outputs : (report.outputs family).length =
      ((report.familyOutcomes family).filter Outcome.isExtracted).length := by
    show ((report.familyOutcomes family).filterMap Outcome.output?).length = _
    induction report.familyOutcomes family with
    | nil => rfl
    | cons outcome others ih =>
      obtain ⟨application, family, status⟩ := outcome
      cases status with
      | extracted output => exact congrArg Nat.succ ih
      | skipped reason => exact ih
  rw [skipped, outputs, ← List.countP_eq_length_filter, ← List.countP_eq_length_filter]
  rw [List.length_eq_countP_add_countP Outcome.isExtracted]
  simp only [Bool.not_eq_true, Bool.decide_eq_false]

/-- With distinct names, an application has one outcome in a family. -/
theorem countP_subject {report : BatchReport} {family : Family} {name : String}
    (outcomes : (report.familyOutcomes family).map Outcome.application =
      applications.map Application.name)
    (distinct : (applications.map Application.name).Nodup)
    (member : name ∈ applications.map Application.name) :
    (report.tasks.flatMap TaskReport.outcomes).countP
      (fun outcome => outcome.subject = (name, family)) = 1 := by
  have split (outcome : Outcome) : decide (outcome.subject = (name, family)) =
      (decide (outcome.application = name) && decide (outcome.family = family)) := by
    simp only [Outcome.subject, Prod.mk.injEq, Bool.decide_and]
  calc (report.tasks.flatMap TaskReport.outcomes).countP
        (fun outcome => outcome.subject = (name, family))
      = (report.familyOutcomes family).countP (fun outcome => outcome.application = name) := by
        simp only [split]
        exact List.countP_filter.symm
    _ = ((report.familyOutcomes family).map Outcome.application).count name := by
        rw [List.count, List.countP_map]
        rfl
    _ = 1 := by
        rw [outcomes]
        exact List.count_eq_one_of_mem distinct member

/-! ### The whole report -/

/-- A report accounts for applications by the outcomes of its two tasks, which have both ended. -/
structure Accounts (report : BatchReport) (applications : List Application)
    (static dynamic : List Outcome) : Prop where
  /-- There is one report of each task, without a failure. -/
  tasks : report.tasks = [⟨.staticAnalysis, static, none⟩, ⟨.dynamicAnalysis, dynamic, none⟩]
  /-- The first task has two outcomes for every application in turn. -/
  static_subjects : static.map Outcome.subject = applications.flatMap fun application =>
    [(application.name, .permissions), (application.name, .intents)]
  /-- The second task has one outcome for every application in turn. -/
  dynamic_subjects : dynamic.map Outcome.subject = applications.map fun application =>
    (application.name, .sensitiveApis)
  /-- No application is reported twice, or not at all, in a family. -/
  once : ∀ application ∈ applications, ∀ family,
    (report.tasks.flatMap TaskReport.outcomes).countP
      (fun outcome => outcome.subject = (application.name, family)) = 1
  /-- The tables of a family and its outcomes without one are as many as the applications. -/
  total : ∀ family, (report.outputs family).length +
      ((report.tasks.flatMap TaskReport.skipped).filter fun outcome =>
        outcome.family = family).length =
    applications.length

/-- **Every application is accounted for once in every family.** A batch on a folder that can be
read has applications and ends with a report that accounts for them, whatever the tools do and
whatever the files are. -/
theorem analyse_accounts (formats : Formats) (tools : Toolbox) (settings : Settings)
    (times : Times) (directory : FilePath) {progress : Progress} {names : List Bytes}
    (readable : progress.tree.list directory = .ok names) :
    ∃ applications listed report after static dynamic,
      (Application.list directory).run progress = (.ok applications, listed) ∧
      (analyse formats tools settings times directory).run progress = (.ok report, after) ∧
      Accounts report applications static dynamic := by
  obtain ⟨told, found⟩ := Application.list_run readable
  have distinct := (Application.select_names (Application.sorted
    ((names.map fun name => directory.join ⟨name⟩).filter progress.tree.isFile)) []).1
  generalize (Application.select [] _).1 = applications at found distinct
  obtain ⟨ready, -, ended⟩ :=
    @analyse_run formats tools settings times directory applications _ _ found
  obtain ⟨static, dynamic, ran, staticSubjects, dynamicSubjects⟩ :=
    runTasks_subjects formats.parser tools settings applications ready
  have tasks : ((mergeAll settings (begun times directory
      (runTasks formats.parser tools settings applications ready).1)
      (runTasks formats.parser tools settings applications ready).2).1.finish
        times.finished).tasks =
          [.completed .staticAnalysis static, .completed .dynamicAnalysis dynamic] := by
    show (mergeAll _ _ _).1.tasks = _
    rw [mergeAll_tasks, ran, begun_tasks]
  have outcomes := familyOutcomes_applications tasks staticSubjects dynamicSubjects
  refine ⟨applications, _, _, _, static, dynamic, found, ended, tasks, staticSubjects,
    dynamicSubjects.trans List.map_eq_flatMap.symm, fun application member family => ?_,
    fun family => ?_⟩
  · exact countP_subject (outcomes family) distinct (List.mem_map_of_mem member)
  · rw [outputs_add_skipped, ← List.length_map, outcomes, List.length_map]

/-- Two packages at the root, and nothing else: no artifact, and no folder for the tables. -/
def twoPackages : FileTree :=
  let one := FileTree.empty.put [] (Text.encode "b.apk") (.file [1] false) FileTree.folder_root
    (by decide)
  one.put [] (Text.encode "a.apk") (.file [] true) rfl (by decide)

/-- They are listed by their names. -/
theorem list_twoPackages : ∃ listed, (Application.list (.ofString "/")).run ⟨twoPackages, []⟩ =
    (.ok [⟨"a", .ofString "/a.apk"⟩, ⟨"b", .ofString "/b.apk"⟩], listed) := by
  obtain ⟨told, found⟩ := @Application.list_run (.ofString "/") ⟨twoPackages, []⟩
    [Text.encode "a.apk", Text.encode "b.apk"] (by decide)
  have packages : ([Text.encode "a.apk", Text.encode "b.apk"].map fun name =>
      (FilePath.ofString "/").join ⟨name⟩).filter twoPackages.isFile =
      [.ofString "/a.apk", .ofString "/b.apk"] := by decide +kernel
  have sorted : Application.sorted [.ofString "/a.apk", .ofString "/b.apk"] =
      [.ofString "/a.apk", .ofString "/b.apk"] := List.mergeSort_of_pairwise (by decide +kernel)
  have named : (Application.select [] [.ofString "/a.apk", .ofString "/b.apk"]).1 =
      [⟨"a", .ofString "/a.apk"⟩, ⟨"b", .ofString "/b.apk"⟩] := by decide +kernel
  rw [packages, sorted, named] at found
  exact ⟨_, found⟩

/-- A batch on them accounts for these two. -/
theorem analyse_accounts_sample :
    twoPackages.list (.ofString "/") = .ok [Text.encode "a.apk", Text.encode "b.apk"] ∧
    ∃ listed report after static dynamic,
      (Application.list (.ofString "/")).run ⟨twoPackages, []⟩ =
        (.ok [⟨"a", .ofString "/a.apk"⟩, ⟨"b", .ofString "/b.apk"⟩], listed) ∧
      (analyse .own (fun _ tree => (.ended false [], tree)) {} ⟨"first", "last"⟩
        (.ofString "/")).run ⟨twoPackages, []⟩ = (.ok report, after) ∧
      Accounts report [⟨"a", .ofString "/a.apk"⟩, ⟨"b", .ofString "/b.apk"⟩] static dynamic := by
  have readable : twoPackages.list (.ofString "/") =
      .ok [Text.encode "a.apk", Text.encode "b.apk"] := by decide
  obtain ⟨applications, listed, report, after, static, dynamic, found, ended, accounts⟩ :=
    @analyse_accounts .own (fun _ tree => (.ended false [], tree)) {} ⟨"first", "last"⟩
      (.ofString "/") ⟨twoPackages, []⟩ _ readable
  obtain ⟨listed', found'⟩ := list_twoPackages
  cases found.symm.trans found'
  exact ⟨readable, _, report, after, static, dynamic, found, ended, accounts⟩

end Batch

end ApkFeatures
