/-
**A batch.**

A batch analyses the applications of a folder in two tasks: one for their manifests, and one for
their call graphs. The tasks are meant to run at the same time, and share nothing but the files. One
is done after the other here, which is one of the orders that their work may come in; the theory
carries what holds of a batch over to every other order. Then the tables of each family are merged,
the report is written, and a summary is told. A table that cannot be merged and a report that cannot
be written are told, and the batch goes on.

* `Batch.runTasks` — both tasks.
* `Batch.analyseBy` — a batch whose tasks are run in any way.
* `Batch.analyse` — a whole batch.
-/
import ApkFeatures.Analysis.CallGraphs
import ApkFeatures.Analysis.Manifests
import ApkFeatures.Formats
import ApkFeatures.Report.Dataset
import ApkFeatures.Report.File
import ApkFeatures.Report.Summary

namespace ApkFeatures.Batch

/-- When a batch begins and ends. -/
structure Times where
  /-- When it begins. -/
  started : String
  /-- When it ends. -/
  finished : String

/-- The report of a task on some applications. -/
def runTask (parser : Xml.Parser) (tools : Toolbox) (settings : Settings)
    (applications : List Application) (task : Task) : Step TaskReport := do
  let outcomes ← Step.within task <|
    match task with
    | .staticAnalysis => Analysis.manifests parser tools settings applications
    | .dynamicAnalysis => Analysis.callGraphs tools settings applications
  return .completed task outcomes

/-- Both tasks, one after the other. -/
def runTasks (parser : Xml.Parser) (tools : Toolbox) (settings : Settings)
    (applications : List Application) : Step (List TaskReport) :=
  Task.all.mapM (runTask parser tools settings applications)

/-- Merges the tables of a family, if there are any, and adds the merged table to the report. -/
def mergeFamily (settings : Settings) (report : BatchReport) (family : Family) :
    Step BatchReport := do
  match report.outputs family with
  | [] =>
    Step.tell .batch .debug ("there are no " ++ family.title ++ " files to merge")
    return report
  | outputs =>
    match ← (Dataset.merge family outputs (settings.datasetFile family)).run with
    | .ok dataset => return report.addDataset dataset
    | .error failure =>
      Step.tell .batch .error ("could not merge the " ++ family.title ++ " dataset: " ++
        failure.message)
      return report

/-- The merging of all families, if tables are to be merged. -/
def mergeAll (settings : Settings) (report : BatchReport) : Step BatchReport :=
  if settings.merge then Family.all.foldlM (mergeFamily settings) report else pure report

/-- Writes the report and tells the summary. -/
def publish (serializer : Serializer) (settings : Settings) (report : BatchReport) : Step Unit := do
  match ← (report.save serializer settings).run with
  | .ok () => pure ()
  | .error failure =>
    Step.tell .batch .error ("there was an error generating the report: " ++ failure.message)
  Step.tellAll (report.summary settings)

/-- The report of a batch before anything is merged. -/
def begun (times : Times) (directory : FilePath) (tasks : List TaskReport) : BatchReport :=
  tasks.foldl BatchReport.addTask (.start directory times.started)

/-- Analyses the applications of a folder, by tasks that are run in some way. -/
def analyseBy (serializer : Serializer) (settings : Settings) (times : Times)
    (directory : FilePath) (run : List Application → Step (List TaskReport)) :
    Trial BatchReport := do
  let applications ← Application.list directory
  Trial.tell .batch .info ("found " ++ toString applications.length ++ " applications in `" ++
    directory.shown ++ "`")
  let tasks ← Trial.of <| run applications
  let merged ← Trial.of <| mergeAll settings (begun times directory tasks)
  let report := merged.finish times.finished
  Trial.of <| publish serializer settings report
  return report

/-- Analyses the applications of a folder. -/
def analyse (formats : Formats) (tools : Toolbox) (settings : Settings) (times : Times)
    (directory : FilePath) : Trial BatchReport :=
  analyseBy formats.serializer settings times directory (runTasks formats.parser tools settings)

end ApkFeatures.Batch
