/-
**Batches that do the same.**

Two runs of the same batch do the same where the artifacts agree and the same tables can be made.
Then the tables that the tasks report are the same, byte for byte, and so are the merged tables,
which are made of nothing else.

* `runTasks_agree` — the tasks, where trees are alike.
* `MakesTables.touches` — they write tables only.
* `BothHold`, `Reported` — trees that hold the same files, those of a report.
* `mergeFamily_agree`, `mergeAll_agree` — merging, where the tables are the same.
* `mergeAll_since` — it does not matter when a batch began.
* `reported_of_tabled` — tables that are as they have to be are the same.
-/
import ApkFeatures.Proofs.Batch.Frame

namespace ApkFeatures

open FilePath FileTree Analysis

/-- The files that a batch reports: tables of applications and merged tables. -/
def BatchReport.written (report : BatchReport) : List FilePath :=
  Family.all.flatMap report.outputs ++ report.datasets.map Dataset.path

/-- The report, of a batch that began at another time. -/
def BatchReport.since (report : BatchReport) (started : String) : BatchReport :=
  { report with started := started }

namespace Batch

variable {parser : Xml.Parser} {tools others : Toolbox} {settings : Settings}
  {times later : Times} {directory : FilePath} {applications twins : List Application}
  {run : List Application → Step (List TaskReport)} {base : Location}
  {family : Family} {report : BatchReport} {progress one two : Progress}
  {paths more : List FilePath} {files : List Location} {before before' after after' : FileTree}

/-! ### The tasks -/

/-- What a task does with applications of the same names is the same in trees that are alike. -/
theorem runTask_agree {relation : FileTree → FileTree → Prop} (off : settings.extract = false)
    (same : applications.map Application.name = twins.map Application.name) (task : Task)
    (decides : ∀ subject ∈ task.subjects twins, Decides relation settings subject.1 subject.2) :
    Step.Agree relation (runTask parser tools settings applications task)
      (runTask parser others settings twins task) fun _ => relation := by
  have each : ∀ twin ∈ twins, ∀ family ∈ task.families,
      Decides relation settings twin.name family := fun twin inside family ofTask =>
    decides (twin.name, family) (List.mem_flatMap.mpr ⟨twin, inside, List.mem_map_of_mem ofTask⟩)
  refine Step.Agree.bind (.within task ?_) fun outcomes => .pure _
  cases task with
  | staticAnalysis =>
    refine (Step.Agree.tell _ _ _ _).bind fun _ => Step.Agree.bind ?_ fun results => .pure _
    exact .mapM Application.name
      (fun application _ twin inside named => manifestOutcomes_agree named off (each twin inside))
      same
  | dynamicAnalysis =>
    refine (Step.Agree.tell _ _ _ _).bind fun _ => ?_
    exact .mapM Application.name
      (fun application _ twin inside named =>
        callGraphOutcome_agree named off (each twin inside _ (by decide))) same

/-- **The tasks do the same in trees that are alike.** -/
theorem runTasks_agree (off : settings.extract = false) (descends : settings.Descends)
    (plain : ∀ twin ∈ twins, IsPlain twin.name)
    (same : applications.map Application.name = twins.map Application.name) :
    Step.Agree (Alike settings (allSubjects twins) []) (runTasks parser tools settings applications)
      (runTasks parser others settings twins) fun _ => Alike settings (allSubjects twins) [] := by
  refine .mapM id (fun task _ other _ sameTask => ?_) rfl
  cases sameTask
  refine runTask_agree off same task fun subject member => Alike.decides descends ?_
    (mem_allSubjects member)
  rw [List.append_nil]
  exact plain_subjects plain

/-- Tasks that make nothing but tables write these only, and make folders on the way only. -/
theorem MakesTables.touches (makes : MakesTables settings run) (descends : settings.Descends)
    (plain : ∀ application ∈ applications, IsPlain application.name)
    (within : (allSubjects applications).map (subjectPlace settings base) ⊆ files) :
    Step.Keeps (Touching base files (settings.Way base)) (run applications) :=
  makes fun application inside family =>
    covers_tableFile (fun _ entered => entered.way descends) (plain application inside)
      (within (List.mem_map_of_mem (mem_allSubjects_of_mem inside family)))

/-! ### Files with the same content -/

/-- Both trees hold some files, with the same content, and where merged tables lie the same folders
stand in their place. -/
structure BothHold (settings : Settings) (paths : List FilePath) (before after : FileTree) : Prop
    where
  /-- Relative paths start at the same location. -/
  workingFolder : after.workingFolder = before.workingFolder
  /-- In the places of merged tables the same folders stand. -/
  clear : ∀ family : Family,
    (before.lookup? ((settings.datasetFile family).placeFrom before.workingFolder) = some .folder ↔
      after.lookup? ((settings.datasetFile family).placeFrom before.workingFolder) = some .folder)
  /-- The files have the same content. -/
  held : ∀ path ∈ paths, ∃ content,
    before.read path = .ok content ∧ after.read path = .ok content

/-- **What is written elsewhere does not matter.** -/
theorem BothHold.of_touches (both : BothHold settings paths before after)
    (first : Touches files (settings.Way before.workingFolder) before before')
    (second : Touches files (settings.Way before.workingFolder) after after')
    (each : ∀ path ∈ more, path ∈ paths ∧ path.placeFrom before.workingFolder ∉ files ∨
      ∃ content, before'.read path = .ok content ∧ after'.read path = .ok content) :
    BothHold settings more before' after' where
  workingFolder := by
    rw [second.writes.workingFolder, both.workingFolder, first.writes.workingFolder]
  clear := fun family => by
    have still {tree reached : FileTree}
        (touches : Touches files (settings.Way before.workingFolder) tree reached) :
        reached.lookup? ((settings.datasetFile family).placeFrom before.workingFolder) =
            some .folder ↔
          tree.lookup? ((settings.datasetFile family).placeFrom before.workingFolder) =
            some .folder :=
      ⟨fun found => (touches.makes _ found).resolve_right Settings.not_way_of_dataset,
        touches.writes.folder⟩
    rw [first.writes.workingFolder]
    exact (still first).trans ((both.clear family).trans (still second).symm)
  held := fun path member => by
    rcases each path member with ⟨inside, outside⟩ | new
    · obtain ⟨content, read, read'⟩ := both.held path inside
      exact ⟨content, first.writes.read outside read,
        second.writes.read (both.workingFolder ▸ outside) read'⟩
    · exact new

/-- In both trees the same folders stand in the places of merged tables. -/
theorem BothHold.isFolder (both : BothHold settings paths before after)
    (descends : settings.Descends) (family : Family) :
    before.isFolder (settings.datasetFile family) = after.isFolder (settings.datasetFile family) := by
  have named := family.isName_datasetName
  refine Bool.eq_iff_iff.mpr ((isFolder_join_iff descends.results named).trans
    (Iff.trans (and_congr_right fun _ => ?_) (isFolder_join_iff descends.results named).symm))
  rw [both.workingFolder]
  exact both.clear family

/-! ### Merging -/

/-- What a report says was written lies where it should. -/
structure IsFiled (settings : Settings) (report : BatchReport) : Prop where
  /-- Tables are those of applications. -/
  tables : ∀ family, ∀ path ∈ report.outputs family,
    ∃ name, IsPlain name ∧ name ≠ "" ∧ path = settings.tableFile family name
  /-- Merged tables are those of their families. -/
  datasets : ∀ path ∈ report.datasets.map Dataset.path,
    ∃ family, path = settings.datasetFile family

theorem mem_written_of_outputs {path : FilePath} (member : path ∈ report.outputs family) :
    path ∈ report.written :=
  List.mem_append_left _ (List.mem_flatMap.mpr ⟨family, family.mem_all, member⟩)

/-- A file of a report is the merged table of a family, or lies elsewhere. -/
theorem IsFiled.elsewhere (filed : IsFiled settings report) {path : FilePath}
    (member : path ∈ report.written) (family : Family) (base : Location) :
    path = settings.datasetFile family ∨
      path.placeFrom base ∉ [(settings.datasetFile family).placeFrom base] := by
  rw [List.mem_singleton]
  rcases List.mem_append.mp member with isTable | isDataset
  · obtain ⟨other, -, inOutputs⟩ := List.mem_flatMap.mp isTable
    obtain ⟨name, plain, -, rfl⟩ := filed.tables other path inOutputs
    exact .inr (Settings.tablePlace_ne_datasetPlace plain)
  · obtain ⟨other, rfl⟩ := filed.datasets path isDataset
    by_cases same : other = family
    · exact .inl (same ▸ rfl)
    · exact .inr (mt Settings.datasetPlace_inj.mp same)

theorem IsFiled.addDataset (filed : IsFiled settings report) (family : Family) (rows : Nat) :
    IsFiled settings (report.addDataset ⟨family, settings.datasetFile family, rows⟩) where
  tables := filed.tables
  datasets := fun path member => by
    rw [BatchReport.addDataset, List.map_append, List.mem_append] at member
    rcases member with old | new
    · exact filed.datasets path old
    · exact ⟨family, List.mem_singleton.mp new⟩

/-- The trees agree about the files of a report. -/
def Reported (settings : Settings) (report : BatchReport) (before after : FileTree) : Prop :=
  IsFiled settings report ∧ BothHold settings report.written before after

/-- Merging a family writes its merged table only, and makes folders on the way only. -/
theorem mergeFamily_touches (descends : settings.Descends) (report : BatchReport) (family : Family)
    (inside : (settings.datasetFile family).placeFrom base ∈ files) :
    Step.Keeps (Touching base files (settings.Way base)) (mergeFamily settings report family) :=
  mergeFamily_keeps (covers_result (fun _ entered => entered.way descends)
    family.isName_datasetName inside) report

section OneFamily

variable (descends : settings.Descends) (reported : Reported settings report one.tree two.tree)

include descends reported

/-- Where a folder stands in the place of a merged table, the report stays as it is, and so do its
files. -/
theorem mergeFamily_agree_of_folder (some : report.outputs family ≠ [])
    (stands : one.tree.isFolder (settings.datasetFile family) = true) :
    (mergeFamily settings report family one).1 = (mergeFamily settings report family two).1 ∧
      Reported settings (mergeFamily settings report family one).1
        (mergeFamily settings report family one).2.tree
        (mergeFamily settings report family two).2.tree := by
  obtain ⟨filed, both⟩ := reported
  have touches := @mergeFamily_touches settings one.tree.workingFolder _ descends report family
    (List.mem_singleton_self _)
  have first := touches one rfl
  have second := touches two both.workingFolder
  obtain ⟨reached, ran⟩ := mergeFamily_of_folder some stands
  obtain ⟨reached', ran'⟩ :=
    mergeFamily_of_folder some ((both.isFolder descends family).symm.trans stands)
  rw [ran] at first ⊢
  rw [ran'] at second ⊢
  refine ⟨rfl, filed, both.of_touches first second fun path member => .inl ⟨member, ?_⟩⟩
  refine (filed.elsewhere member family _).resolve_left fun isDataset => ?_
  obtain ⟨content, read, -⟩ := both.held path member
  cases (isFolder_of_read (isDataset ▸ read)).symm.trans stands

/-- Where nothing stands in the way, the same lines are merged. -/
theorem mergeFamily_agree_of_free (some : report.outputs family ≠ [])
    (free : one.tree.isFolder (settings.datasetFile family) = false) :
    (mergeFamily settings report family one).1 = (mergeFamily settings report family two).1 ∧
      Reported settings (mergeFamily settings report family one).1
        (mergeFamily settings report family one).2.tree
        (mergeFamily settings report family two).2.tree := by
  obtain ⟨filed, both⟩ := reported
  have touches := @mergeFamily_touches settings one.tree.workingFolder _ descends report family
    (List.mem_singleton_self _)
  have first := touches one rfl
  have second := touches two both.workingFolder
  have inputs : ∀ path ∈ Dataset.withoutRepeats (Dataset.byFileName (report.outputs family)),
      path ∈ report.outputs family := fun _ => Dataset.mem_inputs_of_mem
  have given : ∀ path ∈ report.outputs family, ∃ content,
      one.tree.read path = .ok content ∧ two.tree.read path = .ok content := fun path member =>
    both.held path (mem_written_of_outputs member)
  -- There is a table, so the folder of the merged table is there in both trees.
  obtain ⟨path, member⟩ := List.exists_mem_of_ne_nil _ some
  obtain ⟨name, plain, nonempty, rfl⟩ := filed.tables family path member
  obtain ⟨content, read, read'⟩ := given _ member
  obtain ⟨place, reaches⟩ := Dataset.reaches_dataset plain nonempty read
  obtain ⟨place', reaches'⟩ := Dataset.reaches_dataset plain nonempty read'
  have outside (base : Location) : ∀ path ∈ report.outputs family,
      path.placeFrom base ≠ (settings.datasetFile family).placeFrom base := fun path inside => by
    obtain ⟨other, plainOther, -, rfl⟩ := filed.tables family path inside
    exact Settings.tablePlace_ne_datasetPlace plainOther
  obtain ⟨reached, ran, wrote⟩ := Dataset.merge_rows reaches free fun path inside =>
    ⟨(given path (inputs path inside)).imp fun _ => And.left, outside _ path (inputs path inside)⟩
  obtain ⟨reached', ran', wrote'⟩ := Dataset.merge_rows reaches'
    ((both.isFolder descends family).symm.trans free) fun path inside =>
      ⟨(given path (inputs path inside)).imp fun _ => And.right,
        outside _ path (inputs path inside)⟩
  have rows : (Dataset.withoutRepeats (Dataset.byFileName (report.outputs family))).filterMap
        (Dataset.rowAt? family two.tree) =
      (Dataset.withoutRepeats (Dataset.byFileName (report.outputs family))).filterMap
        (Dataset.rowAt? family one.tree) := List.filterMap_congr fun path inside => by
    obtain ⟨content, read, read'⟩ := given path (inputs path inside)
    exact Dataset.rowAt?_congr (read'.trans read.symm)
  rw [rows] at ran' wrote'
  rw [mergeFamily_of_dataset some ran] at first ⊢
  rw [mergeFamily_of_dataset some ran'] at second ⊢
  refine ⟨rfl, filed.addDataset family _, both.of_touches first second fun path inside => ?_⟩
  by_cases isDataset : path = settings.datasetFile family
  · exact .inr ⟨_, isDataset ▸ wrote, isDataset ▸ wrote'⟩
  · refine .inl ⟨?_, ((filed.addDataset family _).elsewhere inside family _).resolve_left isDataset⟩
    rw [BatchReport.written, BatchReport.addDataset, List.map_append, ← List.append_assoc,
      List.mem_append] at inside
    exact inside.resolve_right fun isNew => isDataset (List.mem_singleton.mp isNew)

end OneFamily

/-- **A family is merged in the same way where the tables are the same.** -/
theorem mergeFamily_agree (descends : settings.Descends) (report : BatchReport) (family : Family) :
    Step.Agree (Reported settings report) (mergeFamily settings report family)
      (mergeFamily settings report family) (Reported settings) := by
  intro one two reported
  by_cases nothing : report.outputs family = []
  · obtain ⟨told, first⟩ := @mergeFamily_of_none settings report family one nothing
    obtain ⟨told', second⟩ := @mergeFamily_of_none settings report family two nothing
    rw [first, second]
    exact ⟨rfl, reported⟩
  · cases stands : one.tree.isFolder (settings.datasetFile family) with
    | true => exact mergeFamily_agree_of_folder descends reported nothing stands
    | false => exact mergeFamily_agree_of_free descends reported nothing stands

theorem mergeAll_agree (descends : settings.Descends) (report : BatchReport) :
    Step.Agree (Reported settings report) (mergeAll settings report) (mergeAll settings report)
      (Reported settings) := by
  unfold mergeAll
  split
  · exact .foldlM (mergeFamily_agree descends) Family.all report
  · exact fun one two reported => ⟨rfl, reported⟩

/-! ### When a batch begins -/

theorem mergeFamily_since (started : String) (report : BatchReport) (family : Family)
    (progress : Progress) :
    mergeFamily settings (report.since started) family progress =
      ((mergeFamily settings report family progress).1.since started,
        (mergeFamily settings report family progress).2) := by
  unfold mergeFamily
  rw [show (report.since started).outputs family = report.outputs family from rfl]
  cases report.outputs family with
  | nil => rfl
  | cons first rest =>
    dsimp only
    rw [Step.bind_apply, Step.bind_apply]
    cases ((Dataset.merge family (first :: rest) (settings.datasetFile family)).run progress).1 <;>
      rfl

/-- **What is merged does not depend on when a batch began.** -/
theorem mergeAll_since (started : String) (report : BatchReport) (progress : Progress) :
    mergeAll settings (report.since started) progress =
      ((mergeAll settings report progress).1.since started,
        (mergeAll settings report progress).2) := by
  have families (families : List Family) : ∀ report progress,
      families.foldlM (mergeFamily settings) (report.since started) progress =
        ((families.foldlM (mergeFamily settings) report progress).1.since started,
          (families.foldlM (mergeFamily settings) report progress).2) := by
    induction families with
    | nil => exact fun report progress => rfl
    | cons family rest ih =>
      intro report progress
      rw [Step.foldlM_cons, Step.foldlM_cons, mergeFamily_since, ih]
  unfold mergeAll
  split
  · exact families Family.all report progress
  · rfl

/-! ### Tables that are reported -/

/-- An application has the same features where its artifact is the same. -/
theorem features_unique {name : String} {features features' : FeatureVector family.vocabulary}
    (same : SameRead (settings.artifactFile family name) before after)
    (has : HasFeatures parser settings before family name features)
    (has' : HasFeatures parser settings after family name features') : features = features' := by
  obtain ⟨content, read, found⟩ := has
  obtain ⟨content', read', found'⟩ := has'
  have contents := same.readText
  rw [read, read'] at contents
  cases contents
  exact Option.some.inj (found.symm.trans found')

/-- **Tables that are as they have to be have the same content** where the artifacts are the same. -/
theorem reported_of_tabled (parser : Xml.Parser) (fresh : report.datasets = [])
    (named : ∀ outcome ∈ report.tasks.flatMap TaskReport.outcomes,
      IsPlain outcome.application ∧ outcome.application ≠ "")
    (tabled : ∀ outcome ∈ report.tasks.flatMap TaskReport.outcomes,
      Tabled parser settings before outcome)
    (tabled' : ∀ outcome ∈ report.tasks.flatMap TaskReport.outcomes,
      Tabled parser settings after outcome)
    (artifacts : ∀ outcome ∈ report.tasks.flatMap TaskReport.outcomes,
      SameRead (settings.artifactFile outcome.family outcome.application) before after)
    (both : BothHold settings [] before after) : Reported settings report before after := by
  have source {family : Family} {path : FilePath} (member : path ∈ report.outputs family) :
      ∃ outcome ∈ report.tasks.flatMap TaskReport.outcomes, outcome.family = family ∧
        outcome.status = .extracted path := by
    obtain ⟨outcome, kept, output⟩ := List.mem_filterMap.mp member
    obtain ⟨inReport, ofFamily⟩ := List.mem_filter.mp kept
    refine ⟨outcome, inReport, of_decide_eq_true ofFamily, ?_⟩
    rw [Outcome.output?] at output
    split at output
    · cases output
      assumption
    · cases output
  refine ⟨⟨fun family path member => ?_, fun path member => ?_⟩, both.workingFolder, both.clear,
    fun path member => ?_⟩
  · obtain ⟨outcome, inReport, rfl, status⟩ := source member
    obtain ⟨plain, nonempty⟩ := named outcome inReport
    exact ⟨outcome.application, plain, nonempty, (tabled outcome inReport path status).1⟩
  · rw [fresh] at member
    cases member
  · rw [BatchReport.written, fresh, List.map_nil, List.append_nil] at member
    obtain ⟨family, -, inOutputs⟩ := List.mem_flatMap.mp member
    obtain ⟨outcome, inReport, rfl, status⟩ := source inOutputs
    obtain ⟨-, features, has, read⟩ := tabled outcome inReport path status
    obtain ⟨-, features', has', read'⟩ := tabled' outcome inReport path status
    rw [← features_unique (artifacts outcome inReport) has has'] at read'
    exact ⟨_, read, read'⟩

end Batch

end ApkFeatures
