/-
**Every interleaving of the tasks does the same.**

The tasks of a batch run at the same time and share nothing but the files. So the work of one task
on an application may come anywhere in between the work of the other, and each task keeps the order
of the applications. In whatever way their work is interleaved, a batch writes the tables that it
reports and nothing but results, and it ends as if one task came after the other.

* `Interleaves` — the schedules of both tasks on some applications.
* `runTasksAlong`, `analyseAlong` — the tasks, and a batch, along a schedule.
* `runTasksAlong_keeps`, `runTasksAlong_faithful` — what the tasks do along any schedule.
* `runTasksAlong_congr`, `runTasksAlong_entries` — they report the same along any schedule, and one
  task after the other is one of these.
* `analyseAlong_publishes`, `analyseAlong_changes` — the merged tables of a batch along any
  schedule, and what it changes.
* `analyseAlong_same`, `analyseAlong_forgets` — it ends as if one task came after the other, and
  what earlier batches have left does not matter.
-/
import ApkFeatures.Proofs.Batch.Interleaving
import ApkFeatures.Proofs.Batch.Leftovers

namespace ApkFeatures.Batch

open FilePath FileTree Analysis

variable {formats : Formats} {parser : Xml.Parser} {tools others : Toolbox} {settings : Settings}
  {times later : Times} {directory : FilePath} {applications : List Application}
  {schedule schedule' : List (Task × Application)} {base : Location} {one two : Progress}
  {order order' : List Application → List (Task × Application)}

/-! ### Schedules -/

/-- The schedule interleaves the work of both tasks on some applications: the work of each task
comes in the order of the applications. -/
def Interleaves (schedule : List (Task × Application)) (applications : List Application) : Prop :=
  ∀ task, schedule.filter (fun entry => entry.1 = task) =
    applications.map fun application => (task, application)

/-- The tasks may take turns. -/
example (first second : Application) : Interleaves
    [(.dynamicAnalysis, first), (.staticAnalysis, first), (.staticAnalysis, second),
      (.dynamicAnalysis, second)] [first, second] := by
  intro task
  cases task <;> rfl

/-- One task may come after the other. -/
theorem interleaves_entries (applications : List Application) :
    Interleaves (entries applications) applications := by
  intro task
  cases task <;> simp [entries, Task.all, List.filter_map, Function.comp_def]

/-- A task is not about the same twice if applications have different names. -/
theorem nodup_subjects (distinct : (applications.map Application.name).Nodup) (task : Task) :
    (task.subjects applications).Nodup := by
  refine List.nodup_flatMap.mpr ⟨fun application _ => ?_, ?_⟩
  · have families : task.families.Nodup := by cases task <;> decide
    exact families.map fun _ _ same => (Prod.mk.inj same).2
  · refine (List.pairwise_map.mp distinct).imp fun different subject here there => different ?_
    obtain ⟨family, -, rfl⟩ := List.mem_map.mp here
    obtain ⟨other, -, same⟩ := List.mem_map.mp there
    exact (Prod.mk.inj same).1.symm

theorem nodup_allSubjects (distinct : (applications.map Application.name).Nodup) :
    (allSubjects applications).Nodup :=
  List.nodup_append'.mpr
    ⟨nodup_subjects distinct _, nodup_subjects distinct _, disjoint_subjects⟩

/-- What the work of a task is about are its families. -/
theorem filter_entrySubjects (task : Task) (schedule : List (Task × Application)) :
    (schedule.flatMap entrySubjects).filter (fun subject => subject.2 ∈ task.families) =
      (schedule.filter fun entry => entry.1 = task).flatMap entrySubjects := by
  have each (entry : Task × Application) :
      (entrySubjects entry).filter (fun subject => subject.2 ∈ task.families) =
        if entry.1 = task then entrySubjects entry else [] := by
    obtain ⟨other, application⟩ := entry
    cases other <;> cases task <;> simp [entrySubjects, Task.families]
  induction schedule with
  | nil => rfl
  | cons entry rest ih =>
    rw [List.flatMap_cons, List.filter_append, ih, each, List.filter_cons]
    by_cases ofTask : entry.1 = task <;> simp [ofTask]

namespace Interleaves

variable (interleaves : Interleaves schedule applications)

include interleaves

/-- All work is done once. -/
theorem perm : schedule.Perm (entries applications) := by
  have split :=
    List.filter_append_perm (fun entry => decide (entry.1 = Task.staticAnalysis)) schedule
  have others : schedule.filter (fun entry => !decide (entry.1 = Task.staticAnalysis)) =
      schedule.filter fun entry => decide (entry.1 = Task.dynamicAnalysis) :=
    List.filter_congr fun entry _ => by cases entry.1 <;> rfl
  rw [others, interleaves, interleaves] at split
  refine split.symm.trans (.of_eq ?_)
  simp only [entries, Task.all, List.flatMap_cons, List.flatMap_nil, List.append_nil]

/-- The work is on the applications. -/
theorem mem {entry : Task × Application} (member : entry ∈ schedule) : entry.2 ∈ applications :=
  mem_entries_iff.mp (interleaves.perm.mem_iff.mp member)

/-- The work is about the families of the applications. -/
theorem perm_subjects : (schedule.flatMap entrySubjects).Perm (allSubjects applications) := by
  refine (interleaves.perm.flatMap_right _).trans (.of_eq ?_)
  simp only [entries, Task.all, List.flatMap_cons, List.flatMap_nil, List.append_nil,
    List.flatMap_append, List.flatMap_map]
  rfl

/-- The work of a task is about its families, in the order of the applications. -/
theorem filter_subjects (task : Task) :
    (schedule.flatMap entrySubjects).filter (fun subject => subject.2 ∈ task.families) =
      task.subjects applications := by
  rw [filter_entrySubjects, interleaves, List.flatMap_map]
  rfl

end Interleaves

/-! ### The tasks along a schedule -/

/-- Both tasks along a schedule. Each reports the outcomes of its families. -/
def runTasksAlong (parser : Xml.Parser) (tools : Toolbox) (settings : Settings)
    (schedule : List (Task × Application)) : Step (List TaskReport) := do
  let outcomes ← runSchedule parser tools settings schedule
  return Task.all.map fun task =>
    .completed task (outcomes.filter fun outcome => outcome.family ∈ task.families)

/-- A batch whose tasks are run along a schedule of its applications. -/
def analyseAlong (formats : Formats) (tools : Toolbox) (settings : Settings) (times : Times)
    (directory : FilePath) (order : List Application → List (Task × Application)) :
    Trial BatchReport :=
  analyseBy formats.serializer settings times directory fun applications =>
    runTasksAlong formats.parser tools settings (order applications)

theorem runTasksAlong_apply (parser : Xml.Parser) (tools : Toolbox) (settings : Settings)
    (schedule : List (Task × Application)) (progress : Progress) :
    runTasksAlong parser tools settings schedule progress =
      let worked := runSchedule parser tools settings schedule progress
      ([.completed .staticAnalysis
          (worked.1.filter fun outcome => outcome.family ∈ Task.staticAnalysis.families),
        .completed .dynamicAnalysis
          (worked.1.filter fun outcome => outcome.family ∈ Task.dynamicAnalysis.families)],
        worked.2) := rfl

section Unaided

variable (off : settings.extract = false)
  (mixes : ∀ applications, Interleaves (order applications) applications)

include off

/-- **The work of an entry is done faithfully.** -/
theorem work_faithful (tools : Toolbox) {entry : Task × Application} {progress : Progress}
    (plain : IsPlain entry.2.name) (start : progress.tree.workingFolder = base) :
    Faithful parser settings base (entrySubjects entry)
      (work parser tools settings entry progress).1 progress.tree
      (work parser tools settings entry progress).2.tree := by
  obtain ⟨task, application⟩ := entry
  cases task with
  | staticAnalysis => exact manifestOutcomes_faithful off tools plain start
  | dynamicAnalysis => exact callGraphOutcome_faithful off tools plain start

/-- **The work of a schedule is done faithfully**, if it is not about the same twice. -/
theorem runSchedule_faithful (tools : Toolbox)
    (plain : ∀ entry ∈ schedule, IsPlain entry.2.name)
    (distinct : (schedule.flatMap entrySubjects).Nodup) :
    ∀ {progress : Progress}, progress.tree.workingFolder = base →
      Faithful parser settings base (schedule.flatMap entrySubjects)
        (runSchedule parser tools settings schedule progress).1 progress.tree
        (runSchedule parser tools settings schedule progress).2.tree := by
  induction schedule with
  | nil => exact fun {progress} _ => .nil settings base progress.tree
  | cons entry rest ih =>
    intro progress start
    rw [List.flatMap_cons] at distinct
    obtain ⟨-, nodup, apart⟩ := List.nodup_append'.mp distinct
    have first := @work_faithful parser settings base off tools entry progress
      (plain entry List.mem_cons_self) start
    have others := ih (fun other member => plain other (List.mem_cons_of_mem _ member)) nodup
      (first.writes.workingFolder.trans start)
    rw [runSchedule_cons, List.flatMap_cons]
    refine first.append start others (fun subject member => ?_) fun subject here => apart here
    rw [← List.flatMap_cons] at member
    obtain ⟨other, inside, about⟩ := List.mem_flatMap.mp member
    obtain ⟨family, -, rfl⟩ := List.mem_map.mp about
    exact plain other inside

include mixes

/-- **Along any schedule the tasks do nothing but make tables.** -/
theorem runTasksAlong_keeps (tools : Toolbox) : MakesTables settings fun applications =>
    runTasksAlong parser tools settings (order applications) := by
  intro relation frame applications covers
  refine (runSchedule_keeps off tools fun subject member => ?_).bind fun _ => .pure _
  obtain ⟨entry, inside, about⟩ := List.mem_flatMap.mp member
  obtain ⟨family, -, rfl⟩ := List.mem_map.mp about
  exact covers entry.2 ((mixes applications).mem inside) family

/-- **Along any schedule the tasks write the tables that they report**, and no table is written
twice. -/
theorem runTasksAlong_faithful (tools : Toolbox) : ReportsTables parser settings fun applications =>
    runTasksAlong parser tools settings (order applications) := by
  intro applications progress base distinct plain start
  have mixed := mixes applications
  have faithful := @runSchedule_faithful parser settings _ base off tools
    (fun entry inside => plain entry.2 (mixed.mem inside))
    (mixed.perm_subjects.nodup_iff.mpr (nodup_allSubjects distinct)) progress start
  have ofTask (task : Task) :
      ((runSchedule parser tools settings (order applications) progress).1.filter
        fun outcome => outcome.family ∈ task.families).map Outcome.subject =
          task.subjects applications := by
    rw [← mixed.filter_subjects task, ← faithful.about, List.filter_map]
    rfl
  dsimp only
  rw [runTasksAlong_apply]
  refine ⟨_, _, rfl, ofTask _, ofTask _, ?_, ?_, ?_⟩
  · rw [List.map_append, ofTask, ofTask]
  · refine faithful.writes.mono (List.map_subset _ ?_)
    exact mixed.perm_subjects.subset
  · intro outcome member
    refine faithful.tabled outcome ?_
    exact (List.mem_append.mp member).elim List.mem_of_mem_filter List.mem_of_mem_filter

end Unaided

/-! ### The same reports -/

/-- Lists with the same keys, each of them once, are the same if one has the items of the other. -/
theorem eq_of_keys {α β : Type} {key : α → β} : ∀ {items others : List α},
    items.map key = others.map key → (items.map key).Nodup → (∀ item ∈ items, item ∈ others) →
      items = others
  | [], [], _, _, _ => rfl
  | [], _ :: _, same, _, _ => by cases same
  | _ :: _, [], same, _, _ => by cases same
  | item :: items, other :: others, same, distinct, within => by
    rw [List.map_cons, List.map_cons, List.cons.injEq] at same
    rw [List.map_cons, List.nodup_cons] at distinct
    have first : item = other := (List.mem_cons.mp (within item List.mem_cons_self)).resolve_right
      fun later => distinct.1 (same.2 ▸ List.mem_map_of_mem later)
    refine List.cons_eq_cons.mpr ⟨first, eq_of_keys same.2 distinct.2 fun next member => ?_⟩
    refine (List.mem_cons.mp (within next (List.mem_cons_of_mem _ member))).resolve_left
      fun again => distinct.1 ?_
    rw [first, ← again]
    exact List.mem_map_of_mem member

section Same

variable (off : settings.extract = false) (descends : settings.Descends) (tools others : Toolbox)
  (distinct : (applications.map Application.name).Nodup)
  (plain : ∀ application ∈ applications, IsPlain application.name)
  (first : Interleaves schedule applications) (second : Interleaves schedule' applications)
  (same : one.tree = two.tree)

include off descends distinct plain first second same

/-- An outcome that one schedule has the other one has, too. -/
theorem mem_runSchedule {outcome : Outcome}
    (member : outcome ∈ (runSchedule parser tools settings schedule one).1) :
    outcome ∈ (runSchedule parser others settings schedule' two).1 := by
  have about : outcome.subject ∈ schedule.flatMap entrySubjects := by
    rw [← @runSchedule_subjects parser tools settings schedule one]
    exact List.mem_map_of_mem member
  obtain ⟨⟨task, application⟩, inside, mine⟩ := List.mem_flatMap.mp about
  obtain ⟨family, ofTask, isSubject⟩ := List.mem_map.mp mine
  have listed : application ∈ applications := first.mem inside
  obtain ⟨front, back, rfl, apart⟩ := exists_amid distinct plain first.perm listed task
  obtain ⟨front', back', rfl, apart'⟩ := exists_amid distinct plain second.perm listed task
  obtain ⟨⟨only, found, found'⟩, -⟩ := @sameEnd_of_alike parser tools others settings application
    task family front back front' back' off descends ofTask (plain application listed) apart apart'
    one two (same ▸ .refl _ _ _ _)
  have isOnly : outcome = only := by
    rw [← List.mem_singleton, ← found, List.mem_filter]
    exact ⟨member, decide_eq_true isSubject.symm⟩
  rw [isOnly]
  exact List.mem_of_mem_filter (found' ▸ List.mem_singleton_self only)

/-- **Along any schedule the tasks report the same.** -/
theorem runTasksAlong_congr :
    (runTasksAlong parser tools settings schedule one).1 =
      (runTasksAlong parser others settings schedule' two).1 := by
  have ofTask (task : Task) :
      (runSchedule parser tools settings schedule one).1.filter
          (fun outcome => outcome.family ∈ task.families) =
        (runSchedule parser others settings schedule' two).1.filter
          fun outcome => outcome.family ∈ task.families := by
    have subjects {others : Toolbox} {schedule : List (Task × Application)} {progress : Progress}
        (interleaves : Interleaves schedule applications) :
        ((runSchedule parser others settings schedule progress).1.filter
          fun outcome => outcome.family ∈ task.families).map Outcome.subject =
            task.subjects applications := by
      rw [← interleaves.filter_subjects task, ← @runSchedule_subjects parser others settings,
        List.filter_map]
      rfl
    refine eq_of_keys ((subjects first).trans (subjects second).symm) ?_ fun outcome member => ?_
    · rw [subjects first]
      exact nodup_subjects distinct task
    · obtain ⟨inFirst, inFamily⟩ := List.mem_filter.mp member
      have inSecond :=
        mem_runSchedule off descends tools others distinct plain first second same inFirst
      exact List.mem_filter.mpr ⟨inSecond, inFamily⟩
  rw [runTasksAlong_apply, runTasksAlong_apply]
  dsimp only
  rw [ofTask, ofTask]

end Same

/-- The outcomes of a task belong to its families. -/
theorem family_mem_of_subjects {task : Task} {outcomes : List Outcome}
    (about : outcomes.map Outcome.subject = task.subjects applications) :
    ∀ outcome ∈ outcomes, outcome.family ∈ task.families := by
  intro outcome member
  have subject : outcome.subject ∈ task.subjects applications := about ▸ List.mem_map_of_mem member
  obtain ⟨application, -, ofApplication⟩ := List.mem_flatMap.mp subject
  obtain ⟨family, ofTask, same⟩ := List.mem_map.mp ofApplication
  exact (Prod.mk.inj same).2 ▸ ofTask

/-- Of the outcomes of both tasks, each task has its own families. -/
theorem filter_families {task other : Task} {outcomes : List Outcome}
    (about : outcomes.map Outcome.subject = task.subjects applications) :
    outcomes.filter (fun outcome => outcome.family ∈ other.families) =
      if task = other then outcomes else [] := by
  have families := family_mem_of_subjects about
  split
  · rename_i same
    exact List.filter_eq_self.mpr fun outcome member =>
      decide_eq_true (same ▸ families outcome member)
  · rename_i different
    exact List.filter_eq_nil_iff.mpr fun outcome member ofOther =>
      different (task_of_family (families outcome member) (of_decide_eq_true ofOther))

/-- **One task after the other is one of the schedules.** -/
theorem runTasksAlong_entries (off : settings.extract = false) (tools : Toolbox)
    (plain : ∀ application ∈ applications, IsPlain application.name) (progress : Progress) :
    (runTasksAlong parser tools settings (entries applications) progress).1 =
      (runTasks parser tools settings applications progress).1 := by
  obtain ⟨static, dynamic, ran, ofStatic, ofDynamic⟩ :=
    runTasks_subjects parser tools settings applications progress
  obtain ⟨outcomes, -⟩ := @runTasks_eq parser settings off tools applications plain progress
  rw [ran, List.flatMap_cons, List.flatMap_singleton] at outcomes
  rw [runTasksAlong_apply, ran]
  dsimp only
  rw [← outcomes]
  simp only [TaskReport.completed, List.filter_append, filter_families ofStatic,
    filter_families ofDynamic, reduceCtorEq, if_true, if_false, List.append_nil, List.nil_append]

/-! ### Whole batches -/

section Results

variable {first second third : Except Failure BatchReport × Progress}

theorem written_congr {report other : BatchReport} (tasks : report.tasks = other.tasks)
    (datasets : report.datasets = other.datasets) : report.written = other.written := by
  unfold BatchReport.written BatchReport.outputs
  rw [tasks, datasets]

theorem SameResults.symm (same : SameResults first second) : SameResults second first := by
  cases same with
  | failed => exact .failed
  | ended tasks datasets contents =>
    refine .ended tasks.symm datasets.symm fun path member => ?_
    rw [← written_congr tasks datasets] at member
    obtain ⟨content, read, read'⟩ := contents path member
    exact ⟨content, read', read⟩

theorem SameResults.trans (same : SameResults first second) (next : SameResults second third) :
    SameResults first third := by
  cases same with
  | failed =>
    cases next
    exact .failed
  | ended tasks datasets contents =>
    cases next with
    | ended tasks' datasets' contents' =>
      refine .ended (tasks.trans tasks') (datasets.trans datasets') fun path member => ?_
      obtain ⟨content, read, middle⟩ := contents path member
      obtain ⟨content', middle', read'⟩ := contents' path (written_congr tasks datasets ▸ member)
      cases middle.symm.trans middle'
      exact ⟨content, read, read'⟩

end Results

section Batches

variable (off : settings.extract = false) (formats : Formats) (tools others : Toolbox)
  (times later : Times) (directory : FilePath)

include off

/-- Without tools it does not matter for a schedule which tools there are. -/
theorem runSchedule_unaided :
    runSchedule parser tools settings = runSchedule parser others settings := by
  have each : work parser tools settings = work parser others settings := by
    funext entry
    obtain ⟨task, application⟩ := entry
    cases task with
    | staticAnalysis =>
      exact congrFun (manifestOutcomes_unaided off tools others) application
    | dynamicAnalysis =>
      rw [work, work, callGraphOutcome_unaided off tools others]
  funext schedule
  rw [runSchedule, runSchedule, each]

variable (mixes : ∀ applications, Interleaves (order applications) applications)

include mixes

/-- **Along any schedule the merged tables of a batch are those of its applications.** -/
theorem analyseAlong_publishes {before after : Progress} {report : BatchReport}
    (ended : (analyseAlong formats tools settings times directory order).run before =
      (.ok report, after))
    (on : settings.merge = true)
    (oneLine : ∀ outcome ∈ report.tasks.flatMap TaskReport.outcomes,
      '\n' ∉ outcome.application.toList) :
    Publishes formats.parser settings report before.tree after.tree :=
  analyseBy_publishes (runTasksAlong_faithful off mixes tools) ended on oneLine

/-- **Along any schedule a batch without tools only writes results**, and runs no command. -/
theorem analyseAlong_changes (before : Progress) :
    let after := (analyseAlong formats tools settings times directory order).run before
    let base := before.tree.workingFolder
    let results := places settings base (Application.listed directory before)
    analyseAlong formats tools settings times directory order =
        analyseAlong formats others settings times directory order ∧
      after.2.tree.workingFolder = base ∧
      (∀ place, after.2.tree.lookup? place = before.tree.lookup? place ∨
        place ∈ results ∧ before.tree.lookup? place ≠ some .folder ∨
        before.tree.lookup? place = none ∧ after.2.tree.lookup? place = some .folder ∧
          settings.Entered base place) ∧
      (∀ path content, path.placeFrom base ∉ results → before.tree.read path = .ok content →
        after.2.tree.read path = .ok content) ∧
      ∀ failure, after.1 = .error failure → after.2 = before := by
  intro after base results
  have unaided : analyseAlong formats tools settings times directory order =
      analyseAlong formats others settings times directory order := by
    unfold analyseAlong runTasksAlong
    rw [runSchedule_unaided off tools others]
  obtain ⟨touches, failed⟩ := @analyseBy_touches formats.serializer settings _
    (@runTasksAlong_keeps formats.parser settings order off mixes tools) times directory before
  exact ⟨unaided, touches.writes.workingFolder, touches.lookup?,
    fun path content outside given => touches.writes.read outside given, failed⟩

variable (descends : settings.Descends)

include descends

/-- **Along any schedule a batch ends as if one task came after the other.** -/
theorem analyseAlong_same (one : Progress) :
    SameResults ((analyse formats tools settings times directory).run one)
      ((analyseAlong formats others settings later directory order).run one) := by
  refine sameResults_of_results descends (runTasks_keeps off tools)
    (runTasksAlong_keeps off mixes others) (runTasks_faithful off tools)
    (runTasksAlong_faithful off mixes others) (.refl settings directory one.tree)
    fun {applications twins listed listed' ready ready'} _ found found' tree tree' => ?_
  cases found.symm.trans found'
  obtain ⟨-, distinct, named⟩ := Application.list_spec found
  have plain : ∀ application ∈ applications, IsPlain application.name :=
    fun application member => (named application member).1
  rw [← runTasksAlong_entries off tools plain]
  exact runTasksAlong_congr off descends tools others distinct plain
    (interleaves_entries applications) (mixes applications) (tree.trans tree'.symm)

/-- **Along any schedules nothing that was left leaks into a batch**, and a second batch makes the
same tables again. -/
theorem analyseAlong_forgets (one : Progress) :
    let first := (analyseAlong formats tools settings times directory order).run one
    (∀ {others later two order'}, (∀ applications, Interleaves (order' applications) applications) →
      Leftovers settings directory one.tree two.tree →
      SameResults first ((analyseAlong formats others settings later directory order').run two)) ∧
    ∀ {others later two order'}, (∀ applications, Interleaves (order' applications) applications) →
      two.tree = first.2.tree → Application.SamePackages directory one.tree two.tree →
      SameResults first ((analyseAlong formats others settings later directory order').run two) := by
  intro first
  have forgets {others : Toolbox} {later : Times} {two : Progress}
      {order' : List Application → List (Task × Application)}
      (mixes' : ∀ applications, Interleaves (order' applications) applications)
      (left : Leftovers settings directory one.tree two.tree) :
      SameResults first
        ((analyseAlong formats others settings later directory order').run two) := by
    have before :=
      analyseAlong_same off formats tools tools times times directory mixes descends one
    have between : SameResults ((analyse formats tools settings times directory).run one)
        ((analyse formats others settings later directory).run two) :=
      sameResults_of_leftovers off descends left
    have after :=
      analyseAlong_same off formats others others later later directory mixes' descends two
    exact (before.symm.trans between).trans after
  refine ⟨forgets, fun {others later two order'} mixes' again packages => forgets mixes' ?_⟩
  exact leftovers_of_analyseBy descends (runTasksAlong_keeps off mixes tools) again packages

end Batches

end ApkFeatures.Batch
