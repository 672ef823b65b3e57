/-
**A report that cannot be written leaves its own beginning.**

The file of a report is emptied before the report is written, and what has been written stays when
the serializer refuses a path that is no text. So nothing is left of an earlier report: the file
holds the new one up to that path, however deep it stands. Only where the file cannot be made at all
does it stay as it was.

* `BatchReport.paths`, `BatchReport.mapPaths` — the paths in a report, and other paths in it.
* `BatchReport.save_of_folder`, `BatchReport.save_of_file`, `BatchReport.save_of_made` — saving a
  report, by what can be made.
* `BatchReport.save_stops` — what saving a report does to the files.
* `BatchReport.save_damages` — an earlier report that is lost.
-/
import ApkFeatures.Proofs.Buffer
import ApkFeatures.Proofs.Report.Serializing
import ApkFeatures.Report.File

namespace ApkFeatures

/-! ### The paths of a report -/

/-- The status with another path. -/
def Status.mapPaths (form : FilePath → FilePath) : Status → Status
  | extracted output => extracted (form output)
  | skipped reason => skipped reason

/-- The outcome with another path. -/
def Outcome.mapPaths (form : FilePath → FilePath) (outcome : Outcome) : Outcome :=
  { outcome with status := outcome.status.mapPaths form }

/-- The report of a task with other paths. -/
def TaskReport.mapPaths (form : FilePath → FilePath) (report : TaskReport) : TaskReport :=
  { report with outcomes := report.outcomes.map (Outcome.mapPaths form) }

/-- The merged table with another path. -/
def Dataset.mapPaths (form : FilePath → FilePath) (dataset : Dataset) : Dataset :=
  { dataset with path := form dataset.path }

namespace BatchReport

/-- The report with other paths. -/
def mapPaths (form : FilePath → FilePath) (report : BatchReport) : BatchReport :=
  { report with
    directory := form report.directory
    tasks := report.tasks.map (TaskReport.mapPaths form)
    datasets := report.datasets.map (Dataset.mapPaths form) }

/-- The paths in a report: the folder of the applications, the tables of the outcomes and the merged
tables. -/
def paths (report : BatchReport) : List FilePath :=
  report.directory :: (report.tasks.flatMap TaskReport.outcomes).filterMap Outcome.output? ++
    report.datasets.map Dataset.path

theorem paths_outcome (outcome : Outcome) : outcome.json.paths = outcome.output?.toList := by
  obtain ⟨application, family, status⟩ := outcome
  cases status with
  | extracted output => rfl
  | skipped reason => rfl

theorem paths_dataset (dataset : Dataset) : dataset.json.paths = [dataset.path] := rfl

theorem paths_ofOption (text? : Option String) : (JsonValue.ofOption text?).paths = [] := by
  cases text? <;> rfl

theorem paths_task (task : TaskReport) :
    task.json.paths = task.outcomes.filterMap Outcome.output? := by
  rw [TaskReport.json, JsonValue.paths_object, List.flatMap_cons, List.flatMap_cons,
    List.flatMap_cons, JsonValue.paths_array_map, paths_ofOption,
    List.filterMap_eq_flatMap_toList, funext paths_outcome]
  exact List.append_nil _

/-- **The paths that are met are those of the report.** -/
theorem paths_json (report : BatchReport) : report.json.paths = report.paths := by
  have tasks : (JsonValue.array (report.tasks.map TaskReport.json)).paths =
      (report.tasks.flatMap TaskReport.outcomes).filterMap Outcome.output? := by
    rw [JsonValue.paths_array_map, List.filterMap_flatMap, funext paths_task]
  have datasets : (JsonValue.array (report.datasets.map Dataset.json)).paths =
      report.datasets.map Dataset.path := by
    rw [JsonValue.paths_array_map, funext paths_dataset, ← List.flatMap_pure_eq_map]
    rfl
  rw [json, JsonValue.paths_object, List.flatMap_cons, List.flatMap_cons, List.flatMap_cons,
    List.flatMap_cons, List.flatMap_cons, tasks, datasets, paths_ofOption, List.flatMap_nil,
    List.append_nil]
  rfl

theorem mapPaths_ofOption (form : FilePath → FilePath) (text? : Option String) :
    (JsonValue.ofOption text?).mapPaths form = JsonValue.ofOption text? := by
  cases text? <;> rfl

theorem json_mapPaths_outcome (form : FilePath → FilePath) (outcome : Outcome) :
    (outcome.mapPaths form).json = outcome.json.mapPaths form := by
  obtain ⟨application, family, status⟩ := outcome
  cases status <;> rfl

theorem json_mapPaths_task (form : FilePath → FilePath) (task : TaskReport) :
    (task.mapPaths form).json = task.json.mapPaths form := by
  obtain ⟨name, outcomes, failure?⟩ := task
  have listed : (outcomes.map (Outcome.mapPaths form)).map Outcome.json =
      JsonValue.mapItems form (outcomes.map Outcome.json) := by
    rw [JsonValue.mapItems_eq, List.map_map, List.map_map]
    exact List.map_congr_left fun outcome _ => json_mapPaths_outcome form outcome
  simp only [TaskReport.mapPaths, TaskReport.json, JsonValue.mapPaths, JsonValue.mapMembers,
    listed, mapPaths_ofOption]

/-- **The document of a report with other paths is its document with other paths.** -/
theorem json_mapPaths (form : FilePath → FilePath) (report : BatchReport) :
    (report.mapPaths form).json = report.json.mapPaths form := by
  have tasks : (report.tasks.map (TaskReport.mapPaths form)).map TaskReport.json =
      JsonValue.mapItems form (report.tasks.map TaskReport.json) := by
    rw [JsonValue.mapItems_eq, List.map_map, List.map_map]
    exact List.map_congr_left fun task _ => json_mapPaths_task form task
  have datasets : (report.datasets.map (Dataset.mapPaths form)).map Dataset.json =
      JsonValue.mapItems form (report.datasets.map Dataset.json) := by
    rw [JsonValue.mapItems_eq, List.map_map, List.map_map]
    rfl
  simp only [mapPaths, json, JsonValue.mapPaths, JsonValue.mapMembers, tasks, datasets,
    mapPaths_ofOption]

/-! ### Saving a report -/

section Save

variable (serializer : Serializer) {settings : Settings} {before : Progress}

/-- Without the folder of the results nothing is written. -/
theorem save_of_folder (report : BatchReport) {fault : FileTree.Fault}
    (refused : (before.tree.createFolders settings.resultsFolder).1 = .error fault) :
    ∃ after, (report.save serializer settings).run before = (.error (.files fault), after) ∧
      FileTree.OnlyWrites [] before.tree after.tree := by
  refine ⟨{ before with tree := (before.tree.createFolders settings.resultsFolder).2 }, ?_,
    FileTree.createFolders_onlyWrites before.tree settings.resultsFolder⟩
  rw [save, Trial.run_bind, Trial.run_change, refused]
  rfl

variable (made : (before.tree.createFolders settings.resultsFolder).1 = .ok ())

include made

/-- With the folder of the results there is the file left to make and to write. -/
theorem save_run (report : BatchReport) :
    ∃ told, (report.save serializer settings).run before =
      (do
        Trial.change (some (.createFile settings.reportFile))
          (Step.whole (·.write settings.reportFile []))
        let kept ← Buffer.putAll settings.reportFile
          ((serializer.serialize report.json).pieces.map Text.encode)
        close settings.reportFile kept (serializer.serialize report.json).refusal? :
          Trial Unit).run ⟨(before.tree.createFolders settings.resultsFolder).2, told⟩ := by
  apply Exists.intro
  rw [save, Trial.run_bind, Trial.run_change, made, Trial.run_settle_ok]
  rfl

/-- Without the file of the report nothing is written either. -/
theorem save_of_file (report : BatchReport) {fault : FileTree.Fault}
    (refused : (before.tree.createFolders settings.resultsFolder).2.write settings.reportFile [] =
      .error fault) :
    ∃ after, (report.save serializer settings).run before =
        (.error (.attempt (.createFile settings.reportFile)), after) ∧
      FileTree.OnlyWrites [] before.tree after.tree := by
  obtain ⟨told, ran⟩ := save_run serializer made report
  refine ⟨⟨(before.tree.createFolders settings.resultsFolder).2, told⟩, ?_,
    FileTree.createFolders_onlyWrites before.tree settings.resultsFolder⟩
  rw [ran, Trial.run_bind, Trial.run_change, Step.whole, refused]
  rfl

omit serializer made in
/-- The file is closed with all that was taken in it, and saving fails if the report was refused. -/
theorem close_run {path : FilePath} {folders : FileTree} {taken kept : Bytes} {progress : Progress}
    (filled : Buffer.Filled path folders progress.tree taken kept) (refusal? : Option String) :
    ∃ reached, (close path kept refusal?).run progress =
        (refusal?.elim (.ok ()) fun complaint => .error (.notSerialized complaint), reached) ∧
      Buffer.Filled path folders reached.tree taken [] := by
  obtain ⟨reached, ran, flushed⟩ := filled.flush_run
  refine ⟨reached, ?_, flushed⟩
  cases refusal? with
  | none => exact ran
  | some complaint =>
    show (Trial.of (Buffer.flush path kept).run >>= fun _ => throw _).run progress = _
    rw [Trial.run_of_bind]
    show (_, ((Buffer.flush path kept).run progress).2) = _
    rw [ran]
    rfl

/-- **Otherwise the file holds what the serializer has written**, and saving fails if the serializer
has refused the report. -/
theorem save_of_made (report : BatchReport) {empty : FileTree}
    (emptied : (before.tree.createFolders settings.resultsFolder).2.write settings.reportFile [] =
      .ok empty) :
    ∃ after, (report.save serializer settings).run before =
        ((serializer.serialize report.json).refusal?.elim (.ok ())
          fun complaint => .error (.notSerialized complaint), after) ∧
      FileTree.OnlyWrites [settings.reportFile.placeFrom before.tree.workingFolder] before.tree
        after.tree ∧
      after.tree.read settings.reportFile =
        .ok (Text.encode (serializer.serialize report.json).text) := by
  obtain ⟨told, ran⟩ := save_run serializer made report
  have folders := FileTree.createFolders_onlyWrites before.tree settings.resultsFolder
  have started : Buffer.Filled settings.reportFile
      (before.tree.createFolders settings.resultsFolder).2 (Progress.mk empty told).tree [] [] :=
    .start emptied
  obtain ⟨kept, filled, took, taken⟩ :=
    started.putAll_run ((serializer.serialize report.json).pieces.map Text.encode)
  obtain ⟨after, closed, held⟩ := close_run taken (serializer.serialize report.json).refusal?
  have only := held.writes
  rw [folders.workingFolder] at only
  refine ⟨after, ?_, (folders.mono (List.nil_subset _)).trans only, ?_⟩
  · rw [ran, Trial.run_bind, Trial.run_change, Step.whole, emptied, Trial.run_settle_ok]
    dsimp only
    rw [Trial.run_bind, took]
    exact closed
  · rw [held.read, Serialized.encode_text]

end Save

/-- Only a report whose folder and file have been made is refused by the serializer. -/
theorem made_of_notSerialized {serializer : Serializer} {settings : Settings}
    {report : BatchReport} {before : Progress} {complaint : String}
    (refused : ((report.save serializer settings).run before).1 =
      .error (.notSerialized complaint)) :
    (before.tree.createFolders settings.resultsFolder).1 = .ok () ∧
      ∃ empty, (before.tree.createFolders settings.resultsFolder).2.write settings.reportFile [] =
        .ok empty := by
  cases made : (before.tree.createFolders settings.resultsFolder).1 with
  | error fault =>
    obtain ⟨after, ran, -⟩ := save_of_folder serializer report made
    cases (congrArg Prod.fst ran).symm.trans refused
  | ok done =>
    cases emptied : (before.tree.createFolders settings.resultsFolder).2.write
        settings.reportFile [] with
    | error fault =>
      obtain ⟨after, ran, -⟩ := save_of_file serializer made report emptied
      cases (congrArg Prod.fst ran).symm.trans refused
    | ok empty => exact ⟨rfl, empty, rfl⟩

/-- **A report that cannot be written leaves its own beginning.** Where saving fails because the
serializer refuses the report, the file of the report holds what the serializer writes up to the
first path that is no text, whatever it held before: the same report with texts for such paths is
written to its end, and begins so. Saving fails so whenever there is such a path and the folder and
the file can be made. If one of them cannot, it fails otherwise, and no file is written. A report in
which all paths are texts is written as a whole. -/
theorem save_stops {serializer : Serializer} (lawful : serializer.IsLawful) (settings : Settings)
    (report : BatchReport) (before : Progress) :
    let place := settings.reportFile.placeFrom before.tree.workingFolder
    let folders := before.tree.createFolders settings.resultsFolder
    let file := folders.2.write settings.reportFile []
    let result := ((report.save serializer settings).run before).1
    let after := ((report.save serializer settings).run before).2.tree
    (∀ complaint, result = .error (.notSerialized complaint) →
      ∃ visited broken, JsonValue.StopsAt report.json.visits visited broken ∧
        FileTree.OnlyWrites [place] before.tree after ∧
        after.read settings.reportFile =
          .ok (Text.encode (serializer.follow serializer.start visited).text) ∧
        ∀ replacement, ∃ rest,
          let repaired := serializer.serialize (report.mapPaths (FilePath.orText replacement)).json
          repaired.refusal? = none ∧
            repaired.text = (serializer.follow serializer.start visited).text ++ rest) ∧
      (folders.1 = .ok () → (∃ empty, file = .ok empty) →
        (∃ path ∈ report.paths, path.isText = false) →
        ∃ complaint, result = .error (.notSerialized complaint)) ∧
      (∀ fault, folders.1 = .error fault →
        result = .error (.files fault) ∧ FileTree.OnlyWrites [] before.tree after) ∧
      (∀ fault, folders.1 = .ok () → file = .error fault →
        result = .error (.attempt (.createFile settings.reportFile)) ∧
          FileTree.OnlyWrites [] before.tree after) ∧
      (folders.1 = .ok () → (∃ empty, file = .ok empty) →
        (∀ path ∈ report.paths, path.isText = true) →
        result = .ok () ∧ FileTree.OnlyWrites [place] before.tree after ∧
          (serializer.serialize report.json).refusal? = none ∧
          after.read settings.reportFile =
            .ok (Text.encode (serializer.serialize report.json).text)) := by
  intro place folders file result after
  rw [← paths_json]
  refine ⟨fun complaint refused => ?_, fun made ⟨empty, emptied⟩ ⟨path, member, unsound⟩ => ?_,
    fun fault missing => ?_, fun fault made missing => ?_, fun made ⟨empty, emptied⟩ sound => ?_⟩
  · obtain ⟨made, empty, emptied⟩ := made_of_notSerialized refused
    obtain ⟨reached, ran, only, held⟩ := save_of_made serializer made report emptied
    have there : after = reached.tree := congrArg (·.2.tree) ran
    have failed : (serializer.serialize report.json).refusal? ≠ none := fun accepted => by
      rw [accepted] at ran
      cases (congrArg Prod.fst ran).symm.trans refused
    obtain ⟨visited, broken, stops⟩ := Serializer.exists_stopsAt_of_refused lawful failed
    obtain ⟨-, written, repaired⟩ := Serializer.serialize_of_stopsAt lawful stops
    rw [there]
    simp only [written] at held repaired
    refine ⟨visited, broken, stops, only, held, fun replacement => ?_⟩
    rw [json_mapPaths]
    exact repaired replacement
  · obtain ⟨reached, ran, -, -⟩ := save_of_made serializer made report emptied
    obtain ⟨complaint, refused⟩ := Serializer.exists_refusal lawful member unsound
    rw [refused] at ran
    exact ⟨complaint, congrArg Prod.fst ran⟩
  · obtain ⟨reached, ran, only⟩ := save_of_folder serializer report missing
    have there : after = reached.tree := congrArg (·.2.tree) ran
    exact ⟨congrArg Prod.fst ran, there ▸ only⟩
  · obtain ⟨reached, ran, only⟩ := save_of_file serializer made report missing
    have there : after = reached.tree := congrArg (·.2.tree) ran
    exact ⟨congrArg Prod.fst ran, there ▸ only⟩
  · obtain ⟨reached, ran, only, held⟩ := save_of_made serializer made report emptied
    have there : after = reached.tree := congrArg (·.2.tree) ran
    have accepted := lawful.accepts sound
    rw [accepted] at ran
    exact ⟨congrArg Prod.fst ran, there ▸ only, accepted, there ▸ held⟩

/-! ### An earlier report -/

section Samples

/-- A working folder with an earlier report. -/
def reported : FileTree :=
  FileTree.empty.put [] (Text.encode "report.json") (.file (Text.encode "old\n") false)
    FileTree.folder_root (by decide)

/-- The report of a batch that has written a table whose path is no text. -/
def unnamedTable : BatchReport :=
  { start (.ofString "apks") "now" with
    tasks := [.completed .staticAnalysis
      [⟨"a", .permissions, .extracted ⟨[0x61, 0xFF]⟩⟩]] }

/-- Of this report there is the beginning, up to the table. -/
theorem save_stops_sample :
    unnamedTable.paths = [.ofString "apks", ⟨[0x61, 0xFF]⟩] ∧
      (∃ complaint, ((unnamedTable.save .pretty {}).run ⟨reported, []⟩).1 =
        .error (.notSerialized complaint)) ∧
      ∃ visited broken, JsonValue.StopsAt unnamedTable.json.visits visited broken ∧
        ((unnamedTable.save .pretty {}).run ⟨reported, []⟩).2.tree.read ({} : Settings).reportFile =
          .ok (Text.encode (Serializer.pretty.follow [] visited).text) := by
  obtain ⟨stops, fails, -⟩ := save_stops Serializer.isLawful_pretty {} unnamedTable ⟨reported, []⟩
  obtain ⟨complaint, refused⟩ := fails rfl ⟨_, rfl⟩ ⟨⟨[0x61, 0xFF]⟩, by decide, by decide⟩
  obtain ⟨visited, broken, first, -, held, -⟩ := stops complaint refused
  exact ⟨by rfl, ⟨complaint, refused⟩, visited, broken, first, held⟩

/-- The report of a batch whose folder is no text. -/
def unwritable : BatchReport := start ⟨[0x61, 0xFF]⟩ "now"

/-- **An earlier report is lost** when a report cannot be written. -/
theorem save_damages :
    reported.read ({} : Settings).reportFile = .ok (Text.encode "old\n") ∧
      ∃ after, (unwritable.save .pretty {}).run ⟨reported, []⟩ =
          (.error (.notSerialized "path contains invalid UTF-8 characters"), after) ∧
        after.tree.read ({} : Settings).reportFile =
          .ok (Text.encode "\x7b\n  \"directory\": ") ∧
        Text.encode "\x7b\n  \"directory\": " ≠ Text.encode "old\n" := by
  refine ⟨by rfl, ⟨_, _⟩, rfl, by rfl, by decide⟩

end Samples

end BatchReport

end ApkFeatures
