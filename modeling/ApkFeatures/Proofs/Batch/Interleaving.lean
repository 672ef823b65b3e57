/-
**Applications and tasks do not interfere.**

The work of a batch is that of each task on each application. In whatever order it is done, the work
of a task on an application ends as if the application were alone: other work writes other tables,
and makes folders on the way to the tables only, which this work would make itself.

* `work`, `runSchedule`, `entries` — the work of a batch, in any order.
* `runTasks_eq` — a batch does this work in one of these orders.
* `Steady`, `runSchedule_steady` — other work leaves trees that are alike.
* `SameEnd`, `sameEnd_of_alike` — runs that end in the same way for an application and a family.
* `OthersDiffer` — trees that differ in the artifacts of other applications.
* `runSchedule_apart` — every order gives what the application gives alone, whatever the artifacts
  of the others are.
-/
import ApkFeatures.Proofs.Analysis.Alike
import ApkFeatures.Proofs.Batch.Datasets

namespace ApkFeatures

open FilePath FileTree Analysis

namespace Batch

variable {parser : Xml.Parser} {tools others : Toolbox} {settings : Settings}
  {application other : Application} {task : Task} {family : Family} {base : Location}
  {schedule front back : List (Task × Application)}
  {subjects : List (String × Family)} {before after : FileTree}

/-! ### Work in any order -/

/-- The work of a task on an application. -/
def work (parser : Xml.Parser) (tools : Toolbox) (settings : Settings) :
    Task × Application → Step (List Outcome)
  | (.staticAnalysis, application) => manifestOutcomes parser tools settings application
  | (.dynamicAnalysis, application) => do
    return [← callGraphOutcome tools settings application]

/-- The work of a schedule, one entry after the other. -/
def runSchedule (parser : Xml.Parser) (tools : Toolbox) (settings : Settings)
    (schedule : List (Task × Application)) : Step (List Outcome) := do
  return (← schedule.mapM (work parser tools settings)).flatten

/-- All work on some applications, task by task. -/
def entries (applications : List Application) : List (Task × Application) :=
  Task.all.flatMap fun task => applications.map fun application => (task, application)

/-- What the work of an entry is about. -/
def entrySubjects (entry : Task × Application) : List (String × Family) :=
  entry.1.families.map fun family => (entry.2.name, family)

theorem runSchedule_cons (entry : Task × Application) (rest : List (Task × Application))
    (progress : Progress) :
    runSchedule parser tools settings (entry :: rest) progress =
      let first := work parser tools settings entry progress
      let later := runSchedule parser tools settings rest first.2
      (first.1 ++ later.1, later.2) := by
  rw [runSchedule, Step.bind_apply, Step.mapM_cons]
  rfl

theorem runSchedule_append (front back : List (Task × Application)) :
    ∀ progress, runSchedule parser tools settings (front ++ back) progress =
      let first := runSchedule parser tools settings front progress
      let later := runSchedule parser tools settings back first.2
      (first.1 ++ later.1, later.2) := by
  induction front with
  | nil => exact fun progress => rfl
  | cons entry rest ih =>
    intro progress
    simp only [List.cons_append, runSchedule_cons, ih, List.append_assoc]

theorem work_subjects (entry : Task × Application) (progress : Progress) :
    (work parser tools settings entry progress).1.map Outcome.subject = entrySubjects entry := by
  obtain ⟨task, application⟩ := entry
  cases task with
  | staticAnalysis => exact manifestOutcomes_subjects parser tools settings application progress
  | dynamicAnalysis =>
    exact congrArg (fun subject => [subject])
      (callGraphOutcome_subject tools settings application progress)

theorem runSchedule_subjects (schedule : List (Task × Application)) :
    ∀ progress, (runSchedule parser tools settings schedule progress).1.map Outcome.subject =
      schedule.flatMap entrySubjects := by
  induction schedule with
  | nil => exact fun progress => rfl
  | cons entry rest ih =>
    intro progress
    rw [runSchedule_cons, List.map_append, work_subjects, ih, List.flatMap_cons]

section Relations

variable {relation : FileTree → FileTree → Prop} (off : settings.extract = false)

include off

/-- The work of an entry does nothing but what makes its tables. -/
theorem work_keeps [IsFrame relation] (tools : Toolbox) {entry : Task × Application}
    (covers : ∀ subject ∈ entrySubjects entry,
      Covers relation (settings.tableFile subject.2 subject.1)) :
    Step.Keeps relation (work parser tools settings entry) := by
  obtain ⟨task, application⟩ := entry
  have each : ∀ family ∈ task.families, Covers relation (settings.tableFile family application.name) :=
    fun family member => covers (application.name, family) (List.mem_map_of_mem member)
  cases task with
  | staticAnalysis => exact manifestOutcomes_keeps off tools each
  | dynamicAnalysis =>
    exact (callGraphOutcome_keeps off tools (each _ (by decide))).bind fun _ => .pure _

theorem runSchedule_keeps [IsFrame relation] (tools : Toolbox)
    (covers : ∀ subject ∈ schedule.flatMap entrySubjects,
      Covers relation (settings.tableFile subject.2 subject.1)) :
    Step.Keeps relation (runSchedule parser tools settings schedule) :=
  (Step.Keeps.mapM fun entry member => work_keeps off tools fun subject about =>
    covers subject (List.mem_flatMap.mpr ⟨entry, member, about⟩)).bind fun _ => .pure _

/-- The work of a task on an application is done in the same way where it is decided in the same
way. -/
theorem work_agree (same : application.name = other.name)
    (decides : ∀ subject ∈ entrySubjects (task, other),
      Decides relation settings subject.1 subject.2) :
    Step.Agree relation (work parser tools settings (task, application))
      (work parser others settings (task, other)) fun _ => relation := by
  have each : ∀ family ∈ task.families, Decides relation settings other.name family :=
    fun family member => decides (other.name, family) (List.mem_map_of_mem member)
  cases task with
  | staticAnalysis => exact manifestOutcomes_agree same off each
  | dynamicAnalysis =>
    exact (callGraphOutcome_agree same off (each _ (by decide))).bind fun _ => .pure _

end Relations

/-! ### The order of a batch -/

section Order

variable (off : settings.extract = false) (tools : Toolbox) {applications : List Application}
  (plain : ∀ application ∈ applications, IsPlain application.name)

include off plain

/-- Work on the same files does the same. -/
theorem mapM_work_agree (task : Task) :
    Step.Agree Eq
      (applications.mapM fun application => work parser tools settings (task, application))
      (applications.mapM fun application => work parser tools settings (task, application))
      fun _ => Eq := by
  refine .mapM Application.name (fun item _ other member same => ?_) rfl
  refine work_agree off same fun subject about => ?_
  obtain ⟨family, -, rfl⟩ := List.mem_map.mp about
  exact decides_eq (plain other member) family

omit off plain in
theorem runTask_mapM (task : Task) (progress : Progress) :
    ∃ start : Progress, start.tree = progress.tree ∧
      let ran := runTask parser tools settings applications task progress
      let worked := (applications.mapM fun application =>
        work parser tools settings (task, application)) start
      ran.1.outcomes = worked.1.flatten ∧ ran.2.tree = worked.2.tree := by
  cases task with
  | staticAnalysis =>
    exact ⟨(Step.tell .manifests .info ("starting the static analysis of " ++
      toString applications.length ++ " applications") { progress with told := [] }).2, rfl, rfl,
      rfl⟩
  | dynamicAnalysis =>
    let start : Progress := (Step.tell .callGraphs .info ("starting the dynamic analysis of " ++
      toString applications.length ++ " applications") { progress with told := [] }).2
    have singles : (applications.mapM fun application =>
        work parser tools settings (.dynamicAnalysis, application)) start = _ :=
      Step.mapM_bind_pure (callGraphOutcome tools settings) (fun outcome => [outcome]) applications
        start
    refine ⟨start, rfl, ?_⟩
    dsimp only
    rw [singles]
    refine ⟨?_, rfl⟩
    rw [← List.flatMap_def, List.flatMap_singleton']
    rfl

/-- A task of a batch does its work in the order of the applications. -/
theorem runTask_eq (task : Task) {one two : Progress} (same : one.tree = two.tree) :
    let ran := runTask parser tools settings applications task one
    let scheduled := runSchedule parser tools settings
      (applications.map fun application => (task, application)) two
    ran.1.outcomes = scheduled.1 ∧ ran.2.tree = scheduled.2.tree := by
  obtain ⟨start, startTree, outcomes, reached⟩ :=
    @runTask_mapM parser settings tools applications task one
  obtain ⟨results, after⟩ := mapM_work_agree off tools plain task start two (startTree.trans same)
  simp only [runSchedule, Step.bind_apply, List.mapM_map]
  exact ⟨outcomes.trans (congrArg List.flatten results), reached.trans after⟩

/-- **A batch does its work task by task.** -/
theorem runTasks_eq (progress : Progress) :
    let ran := runTasks parser tools settings applications progress
    let scheduled := runSchedule parser tools settings (entries applications) progress
    ran.1.flatMap TaskReport.outcomes = scheduled.1 ∧ ran.2.tree = scheduled.2.tree := by
  obtain ⟨outcomes, between⟩ := runTask_eq off tools plain .staticAnalysis (@rfl _ progress.tree)
  obtain ⟨outcomes', after⟩ := runTask_eq off tools plain .dynamicAnalysis between
  simp only [runTasks, Task.all, Step.mapM_cons, entries, List.flatMap_cons, List.flatMap_nil,
    List.append_nil, runSchedule_append]
  exact ⟨congrArg₂ (· ++ ·) outcomes ((List.append_nil _).trans outcomes'), after⟩

end Order

/-! ### Other work -/

/-- From wherever paths start at a location, trees stay alike. -/
def Steady (settings : Settings) (base : Location) (subjects : List (String × Family))
    (before after : FileTree) : Prop :=
  before.workingFolder = base → Alike settings subjects subjects before after

instance (settings : Settings) (base : Location) (subjects : List (String × Family)) :
    IsFrame (Steady settings base subjects) where
  refl tree := fun _ => .refl settings subjects subjects tree
  trans first second := fun started =>
    (first started).trans (second ((first started).room.workingFolder.trans started))

/-- **A table of another application or family does not matter.** -/
theorem covers_steady (descends : settings.Descends) {name : String} (plain : IsPlain name)
    (plains : ∀ subject ∈ subjects, IsPlain subject.1) (apart : (name, family) ∉ subjects) :
    Covers (Steady settings base subjects) (settings.tableFile family name) := by
  have toSteady {before after : FileTree} (touches : Touching base
      [subjectPlace settings base (name, family)] (settings.Way base) before after) :
      Steady settings base subjects before after := by
    intro started
    subst started
    refine .of_touches descends (touches rfl) (fun place member => ?_) (fun place member => ?_)
      (fun _ => id) (fun subject member => plains subject ?_) fun subject member same => ?_
    · rw [List.mem_singleton.mp member]
      exact Settings.not_way_of_table plain
    · rw [List.mem_singleton.mp member, subjectPlace, Settings.lastByte?_tablePlace plain]
      decide
    · exact (List.mem_append.mp member).elim id id
    · obtain ⟨sameFamily, sameName⟩ := (Settings.tablePlace_inj (plains subject member) plain).mp
        (List.mem_singleton.mp same)
      exact apart (Prod.ext sameName sameFamily ▸ member)
  have covers := @covers_tableFile settings base _ _
    (fun _ entered => entered.way descends) family name plain (List.mem_singleton_self _)
  exact ⟨fun tree => toSteady (covers.parent tree), fun written => toSteady (covers.file written)⟩

/-- The work of a schedule is about other subjects. -/
structure Apart (subjects : List (String × Family)) (schedule : List (Task × Application)) :
    Prop where
  /-- Its applications have names that can be the beginning of the names of files. -/
  plain : ∀ entry ∈ schedule, IsPlain entry.2.name
  /-- None of its entries is about one of the subjects. -/
  apart : ∀ entry ∈ schedule, ∀ subject ∈ subjects, subject ∉ entrySubjects entry

theorem apart_append_iff :
    Apart subjects (front ++ back) ↔ Apart subjects front ∧ Apart subjects back := by
  constructor
  · rintro ⟨plain, apart⟩
    rw [List.forall_mem_append] at plain apart
    exact ⟨⟨plain.1, apart.1⟩, plain.2, apart.2⟩
  · rintro ⟨⟨plain, apart⟩, plain', apart'⟩
    exact ⟨List.forall_mem_append.mpr ⟨plain, plain'⟩, List.forall_mem_append.mpr ⟨apart, apart'⟩⟩

/-- **Other work leaves trees that are alike.** -/
theorem runSchedule_steady (off : settings.extract = false) (descends : settings.Descends)
    (parser : Xml.Parser) (tools : Toolbox) (plains : ∀ subject ∈ subjects, IsPlain subject.1)
    (apart : Apart subjects schedule) (progress : Progress) :
    Alike settings subjects subjects progress.tree
      (runSchedule parser tools settings schedule progress).2.tree := by
  have covers : ∀ subject ∈ schedule.flatMap entrySubjects,
      Covers (Steady settings progress.tree.workingFolder subjects)
        (settings.tableFile subject.2 subject.1) := fun subject member => by
    obtain ⟨entry, inside, about⟩ := List.mem_flatMap.mp member
    refine covers_steady descends ?_ plains fun mine => apart.apart entry inside _ mine about
    obtain ⟨family, -, rfl⟩ := List.mem_map.mp about
    exact apart.plain entry inside
  exact runSchedule_keeps off tools covers progress rfl

/-! ### Runs that end in the same way -/

/-- Two runs have the same outcome for an application and a family, one each, and leave the same
table. -/
structure SameEnd (settings : Settings) (name : String) (family : Family)
    (first second : List Outcome × FileTree) : Prop where
  /-- The only outcome is the same. -/
  outcome : ∃ outcome, first.1.filter (fun outcome => outcome.subject = (name, family)) = [outcome] ∧
    second.1.filter (fun outcome => outcome.subject = (name, family)) = [outcome]
  /-- The table has the same content, or there is none. -/
  table : SameRead (settings.tableFile family name) first.2 second.2

section Outcomes

variable {entry : Task × Application} {subject : String × Family}

/-- Other work has no outcome that is about a subject. -/
theorem filter_runSchedule (mine : subject ∈ subjects) (apart : Apart subjects schedule)
    (progress : Progress) :
    (runSchedule parser tools settings schedule progress).1.filter
      (fun outcome => outcome.subject = subject) = [] := by
  refine List.filter_eq_nil_iff.mpr fun outcome member same => ?_
  have about := List.mem_map_of_mem (f := Outcome.subject) member
  rw [runSchedule_subjects, of_decide_eq_true same] at about
  obtain ⟨entry, inside, itsSubject⟩ := List.mem_flatMap.mp about
  exact apart.apart entry inside subject mine itsSubject

/-- The work of an entry has one outcome that is about each of its subjects. -/
theorem filter_work (mine : subject ∈ entrySubjects entry) (progress : Progress) :
    ∃ outcome, (work parser tools settings entry progress).1.filter
      (fun outcome => outcome.subject = subject) = [outcome] := by
  have distinct : (entrySubjects entry).Nodup := by
    obtain ⟨task, application⟩ := entry
    cases task <;> simp [entrySubjects, Task.families]
  have once := List.count_eq_one_of_mem distinct mine
  rw [← @work_subjects parser tools settings entry progress, List.count, List.countP_map] at once
  refine List.length_eq_one_iff.mp ?_
  rw [← List.countP_eq_length_filter, ← once]
  exact List.countP_congr fun outcome _ => by simp

/-- Amid other work, an entry has its own outcomes. -/
theorem filter_amid (mine : subject ∈ subjects) (apart : Apart subjects (front ++ back))
    (progress : Progress) :
    (runSchedule parser tools settings (front ++ entry :: back) progress).1.filter
        (fun outcome => outcome.subject = subject) =
      (work parser tools settings entry
        (runSchedule parser tools settings front progress).2).1.filter
        (fun outcome => outcome.subject = subject) := by
  obtain ⟨inFront, inBack⟩ := apart_append_iff.mp apart
  simp only [runSchedule_append, runSchedule_cons, List.filter_append,
    filter_runSchedule mine inFront, filter_runSchedule mine inBack, List.nil_append,
    List.append_nil]

end Outcomes

/-- **The work of a task on an application ends in the same way amid any other work**, from trees
that are alike. -/
theorem sameEnd_of_alike {front' back' : List (Task × Application)}
    (off : settings.extract = false) (descends : settings.Descends)
    (member : family ∈ task.families) (plain : IsPlain application.name)
    (apart : Apart (entrySubjects (task, application)) (front ++ back))
    (apart' : Apart (entrySubjects (task, application)) (front' ++ back'))
    {one two : Progress} (alike : Alike settings (entrySubjects (task, application))
      (entrySubjects (task, application)) one.tree two.tree) :
    let first := runSchedule parser tools settings (front ++ (task, application) :: back) one
    let second := runSchedule parser others settings (front' ++ (task, application) :: back') two
    SameEnd settings application.name family (first.1, first.2.tree) (second.1, second.2.tree) := by
  have mine : (application.name, family) ∈ entrySubjects (task, application) :=
    List.mem_map_of_mem member
  have plains : ∀ subject ∈ entrySubjects (task, application), IsPlain subject.1 :=
    fun subject about => by
      obtain ⟨_, -, rfl⟩ := List.mem_map.mp about
      exact plain
  obtain ⟨inFront, inBack⟩ := apart_append_iff.mp apart
  obtain ⟨inFront', inBack'⟩ := apart_append_iff.mp apart'
  -- The work finds trees that are alike, does the same, and leaves trees that are alike.
  have before := (runSchedule_steady off descends parser tools plains inFront one).symm.trans
    (alike.trans (runSchedule_steady off descends parser others plains inFront' two))
  obtain ⟨results, between⟩ := @work_agree parser tools others settings application application
    task _ off rfl (fun subject about => Alike.decides descends
      (fun subject about => plains subject ((List.mem_append.mp about).elim id id)) about)
    _ _ before
  have after := (runSchedule_steady off descends parser tools plains inBack _).symm.trans
    (between.trans (runSchedule_steady off descends parser others plains inBack' _))
  obtain ⟨outcome, found⟩ := @filter_work parser tools settings (task, application) _ mine
    (runSchedule parser tools settings front one).2
  refine ⟨⟨outcome, ?_, ?_⟩, ?_⟩
  · exact (filter_amid mine apart one).trans found
  · refine (filter_amid mine apart' two).trans ?_
    rw [← results]
    exact found
  · have table := after.tables _ mine
    simp only [runSchedule_append, runSchedule_cons]
    exact table

/-! ### Artifacts of others -/

/-- The trees differ in artifacts of other applications only. These may be changed, removed and made
in any way, as long as on the way to the tables a file stands in both trees or in none. -/
structure OthersDiffer (settings : Settings) (name : String) (before after : FileTree) : Prop where
  /-- Relative paths start at the same location. -/
  workingFolder : after.workingFolder = before.workingFolder
  /-- The same is found there. -/
  start : after.lookup? before.workingFolder = before.lookup? before.workingFolder
  /-- The same is found wherever no artifact of another application lies. -/
  elsewhere : ∀ {place}, (∀ another family, IsPlain another → another ≠ name →
      place ≠ (settings.artifactFile family another).placeFrom before.workingFolder) →
    after.lookup? place = before.lookup? place
  /-- On the way to the tables the same files stand. -/
  way : ∀ {place}, settings.Way before.workingFolder place →
    (before.HoldsFile place ↔ after.HoldsFile place)

/-- **Artifacts of other applications do not matter.** -/
theorem OthersDiffer.alike {name : String} (descends : settings.Descends) (plain : IsPlain name)
    (differ : OthersDiffer settings name before after)
    (mine : ∀ subject ∈ subjects, subject.1 = name) :
    Alike settings subjects subjects before after := by
  have ofPath {folder : FilePath} {bytes : Bytes} (down : folder.Descends) (named : IsName bytes)
      (elsewhere : ∀ another family, IsPlain another → another ≠ name →
        (folder.join ⟨bytes⟩).placeFrom before.workingFolder ≠
          (settings.artifactFile family another).placeFrom before.workingFolder) :
      SameRead (folder.join ⟨bytes⟩) before after :=
    sameRead_of_lookup? down named differ.workingFolder (differ.elsewhere elsewhere)
  have table (family another : _) (first second : String) (plain : IsPlain first)
      (plainOther : IsPlain second) :
      (settings.tableFile family first).placeFrom before.workingFolder ≠
        (settings.artifactFile another second).placeFrom before.workingFolder :=
    (Settings.artifactPlace_ne plainOther (Settings.lastByte?_tablePlace plain) (by decide)).symm
  refine ⟨⟨differ.workingFolder, ?_, differ.way⟩, fun subject member => ?_, fun subject member => ?_,
    fun subject member => ?_⟩
  · rw [origin]
    split
    · exact Iff.rfl
    · rw [differ.start]
  · rw [mine subject member, settings.artifactFile_eq]
    refine ofPath (descends.artifactFolder _) (Settings.isName_artifactName plain _)
      fun another family plainOther different same => different ?_
    rw [← settings.artifactFile_eq] at same
    exact (Settings.name_of_artifactPlace plain plainOther same).symm
  · rw [subjectPlace, mine subject member, differ.elsewhere fun another family plainOther _ =>
      table _ _ _ _ plain plainOther]
  · rw [mine subject member]
    exact ofPath (descends.familyFolder _) (Settings.isName_tableName plain)
      fun another family plainOther _ => table _ _ _ _ plain plainOther

/-! ### Whole runs -/

theorem exists_task (family : Family) : ∃ task : Task, family ∈ task.families := by
  cases family
  · exact ⟨.staticAnalysis, by decide⟩
  · exact ⟨.staticAnalysis, by decide⟩
  · exact ⟨.dynamicAnalysis, by decide⟩

/-- A family belongs to one task only. -/
theorem task_of_family {first second : Task} (one : family ∈ first.families)
    (two : family ∈ second.families) : first = second := by
  revert one two
  cases first <;> cases second <;> cases family <;> decide

theorem mem_entries_iff {applications : List Application} {entry : Task × Application} :
    entry ∈ entries applications ↔ entry.2 ∈ applications := by
  obtain ⟨task, application⟩ := entry
  cases task <;> simp [entries, Task.all]

section Schedules

variable {applications : List Application} (distinct : (applications.map Application.name).Nodup)
  (plain : ∀ application ∈ applications, IsPlain application.name)

include distinct

theorem nodup_entries : (entries applications).Nodup := by
  have nodup := List.Nodup.of_map _ distinct
  simp only [entries, Task.all, List.flatMap_cons, List.flatMap_nil, List.append_nil]
  refine List.nodup_append'.mpr ⟨nodup.map fun _ _ => by simp, nodup.map fun _ _ => by simp, ?_⟩
  simp [List.Disjoint]

include plain

/-- A schedule of all work has the work of a task on an application once, amid other work. -/
theorem exists_amid (complete : schedule.Perm (entries applications))
    (member : application ∈ applications) (task : Task) :
    ∃ front back, schedule = front ++ (task, application) :: back ∧
      Apart (entrySubjects (task, application)) (front ++ back) := by
  have nodup := complete.nodup_iff.mpr (nodup_entries distinct)
  have inside : (task, application) ∈ schedule := complete.mem_iff.mpr (mem_entries_iff.mpr member)
  obtain ⟨front, back, rfl⟩ := List.append_of_mem inside
  have listed : ∀ entry ∈ front ++ back, entry.2 ∈ applications := fun entry present => by
    refine mem_entries_iff.mp (complete.mem_iff.mp ?_)
    exact (List.mem_append.mp present).elim (List.mem_append_left _)
      fun later => List.mem_append_right _ (List.mem_cons_of_mem _ later)
  refine ⟨front, back, rfl, fun entry present => plain _ (listed entry present),
    fun entry present subject mine about => ?_⟩
  obtain ⟨family, ofTask, rfl⟩ := List.mem_map.mp mine
  obtain ⟨family', ofEntry, same⟩ := List.mem_map.mp about
  obtain ⟨sameName, rfl⟩ := Prod.mk.inj same
  have isSame : entry = (task, application) := Prod.ext (task_of_family ofEntry ofTask)
    (List.inj_on_of_nodup_map distinct (listed entry present) member sameName)
  exact (List.nodup_middle.mp nodup).notMem (isSame ▸ present)

end Schedules

/-- **Every order gives what an application gives alone.** Without tools, whatever the order of the
work of a batch is, every application has the same outcome and the same table in every family as if
the batch were one of this application; and it has them whatever the artifacts of the others are. -/
theorem runSchedule_apart {applications : List Application} (off : settings.extract = false)
    (descends : settings.Descends) (distinct : (applications.map Application.name).Nodup)
    (packaged : ∀ application ∈ applications,
      Application.ofPackage? application.package = some application)
    (complete : schedule.Perm (entries applications)) (member : application ∈ applications)
    (family : Family) (tools : Toolbox) (one : Progress) :
    let whole := runSchedule parser tools settings schedule one
    let alone := runTasks parser tools settings [application] one
    SameEnd settings application.name family (whole.1, whole.2.tree)
        (alone.1.flatMap TaskReport.outcomes, alone.2.tree) ∧
      ∀ {other : List (Task × Application)} {two : Progress}, other.Perm (entries applications) →
        OthersDiffer settings application.name one.tree two.tree →
        let changed := runSchedule parser tools settings other two
        SameEnd settings application.name family (whole.1, whole.2.tree)
          (changed.1, changed.2.tree) := by
  obtain ⟨task, inTask⟩ := exists_task family
  have plain : ∀ application ∈ applications, IsPlain application.name := fun application member =>
    (Application.name_of_ofPackage? (packaged application member)).1
  have named := plain application member
  obtain ⟨front, back, rfl, apart⟩ := exists_amid distinct plain complete member task
  refine ⟨?_, fun {other two} completeOther differ => ?_⟩
  · have plainAlone : ∀ alone ∈ [application], IsPlain alone.name := fun alone present => by
      rw [List.mem_singleton.mp present]
      exact named
    obtain ⟨outcomes, reached⟩ := runTasks_eq off tools plainAlone one
    obtain ⟨front', back', split, apart'⟩ := exists_amid
      (show ([application].map Application.name).Nodup from List.nodup_singleton _) plainAlone
      (List.Perm.refl (entries [application])) (List.mem_singleton_self _) task
    have ends := @sameEnd_of_alike parser tools tools settings application task family front back
      front' back' off descends inTask named apart apart' one one (.refl _ _ _ _)
    rw [outcomes, reached, split]
    exact ends
  · obtain ⟨front', back', rfl, apart'⟩ := exists_amid distinct plain completeOther member task
    refine sameEnd_of_alike off descends inTask named apart apart'
      (differ.alike descends named fun subject mine => ?_)
    obtain ⟨family, -, rfl⟩ := List.mem_map.mp mine
    rfl

/-- Two applications. -/
def twoApplications : List Application :=
  [⟨"a", .ofString "/a.apk"⟩, ⟨"b", .ofString "/b.apk"⟩]

/-- Their work, where neither the tasks nor the applications come one after the other. -/
def mixed : List (Task × Application) :=
  [(.dynamicAnalysis, ⟨"b", .ofString "/b.apk"⟩), (.staticAnalysis, ⟨"a", .ofString "/a.apk"⟩),
    (.staticAnalysis, ⟨"b", .ofString "/b.apk"⟩), (.dynamicAnalysis, ⟨"a", .ofString "/a.apk"⟩)]

/-- A manifest of each of them. -/
def twoManifests (second : Bytes) : FileTree :=
  let folder := FileTree.empty.put [] (Text.encode "manifests") .folder folder_root (by decide)
  let first := folder.put [Text.encode "manifests"] (Text.encode "a_AndroidManifest.xml")
    (.file (Text.encode "android.permission.INTERNET") false) (by decide) (by decide)
  first.put [Text.encode "manifests"] (Text.encode "b_AndroidManifest.xml") (.file second false)
    (by decide) (by decide)

/-- The manifest of one application has been replaced by what is no text. -/
theorem othersDiffer_twoManifests :
    OthersDiffer asTheyAre "a" (twoManifests (Text.encode "<manifest/>")) (twoManifests [255]) := by
  have place : (asTheyAre.artifactFile .permissions "b").placeFrom [] =
      [Text.encode "b_AndroidManifest.xml", Text.encode "manifests"] := by decide
  refine ⟨rfl, rfl, fun elsewhere => ?_, fun _ => ?_⟩
  · have other := elsewhere "b" .permissions (by decide) (by decide)
    rw [show (twoManifests (Text.encode "<manifest/>")).workingFolder = [] from rfl, place] at other
    simp only [twoManifests, lookup?_put, if_neg other]
  · simp only [HoldsFile, twoManifests, lookup?_put]
    split <;> simp

/-- One of two applications, whatever has become of the manifest of the other. -/
theorem runSchedule_apart_sample :
    asTheyAre.extract = false ∧ asTheyAre.Descends ∧
      (twoApplications.map Application.name).Nodup ∧
      (∀ application ∈ twoApplications,
        Application.ofPackage? application.package = some application) ∧
      mixed.Perm (entries twoApplications) ∧
      OthersDiffer asTheyAre "a" (twoManifests (Text.encode "<manifest/>")) (twoManifests [255]) ∧
      let one : Progress := ⟨twoManifests (Text.encode "<manifest/>"), []⟩
      let two : Progress := ⟨twoManifests [255], []⟩
      let whole := runSchedule Xml.parse noTools asTheyAre mixed one
      let alone := runTasks Xml.parse noTools asTheyAre [⟨"a", .ofString "/a.apk"⟩] one
      let changed := runSchedule Xml.parse noTools asTheyAre (entries twoApplications) two
      SameEnd asTheyAre "a" .permissions (whole.1, whole.2.tree)
          (alone.1.flatMap TaskReport.outcomes, alone.2.tree) ∧
        SameEnd asTheyAre "a" .permissions (whole.1, whole.2.tree) (changed.1, changed.2.tree) := by
  have descends : asTheyAre.Descends := ⟨by decide, by decide, by decide⟩
  have distinct : (twoApplications.map Application.name).Nodup := by decide
  have packaged : ∀ application ∈ twoApplications,
      Application.ofPackage? application.package = some application := by decide +kernel
  have complete : mixed.Perm (entries twoApplications) := by decide +kernel
  obtain ⟨alone, changed⟩ := runSchedule_apart rfl descends distinct packaged complete
    (List.mem_cons_self : ⟨"a", .ofString "/a.apk"⟩ ∈ twoApplications) .permissions noTools
    ⟨twoManifests (Text.encode "<manifest/>"), []⟩
  exact ⟨rfl, descends, distinct, packaged, complete, othersDiffer_twoManifests, alone,
    changed (.refl _) othersDiffer_twoManifests⟩

end Batch

end ApkFeatures
