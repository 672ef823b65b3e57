/-
**The report as a file.**

The report of a batch is written as a JSON document in the folder of the results. The file is
emptied first, and takes what the serializer writes through a buffer. A serializer that refuses the
report has written what comes before the place where it does.

* `BatchReport.json` — the report as a JSON value.
* `BatchReport.save` — writing it.
-/
import ApkFeatures.Buffer
import ApkFeatures.Report.Basic
import ApkFeatures.Report.Serializer
import ApkFeatures.Settings.Basic

namespace ApkFeatures

/-- The JSON value of a status. -/
def Status.json : Status → JsonValue
  | extracted output => .object [("status", .text "extracted"), ("output", .path output)]
  | skipped reason => .object [("status", .text "skipped"), ("reason", .text reason)]

/-- The JSON value of an outcome. -/
def Outcome.json (outcome : Outcome) : JsonValue :=
  .object [("application", .text outcome.application), ("family", .text outcome.family.name),
    ("status", outcome.status.json)]

/-- The JSON value of a text that may be missing. -/
def JsonValue.ofOption : Option String → JsonValue
  | none => .null
  | some s => .text s

/-- The JSON value of the report of a task. -/
def TaskReport.json (report : TaskReport) : JsonValue :=
  .object [("task", .text report.task.name),
    ("outcomes", .array (report.outcomes.map Outcome.json)),
    ("failure", .ofOption report.failure?)]

/-- The JSON value of a merged table. -/
def Dataset.json (dataset : Dataset) : JsonValue :=
  .object [("family", .text dataset.family.name), ("path", .path dataset.path),
    ("rows", .number dataset.rows)]

namespace BatchReport

/-- The JSON value of the report. -/
def json (report : BatchReport) : JsonValue :=
  .object [("directory", .path report.directory), ("started", .text report.started),
    ("finished", .ofOption report.finished?), ("tasks", .array (report.tasks.map TaskReport.json)),
    ("datasets", .array (report.datasets.map Dataset.json))]

/-- Closes the file of a report, with what is kept back to be written. If the report was refused,
no one is told whether that could be done. -/
def close (path : FilePath) (kept : Bytes) (refusal? : Option String) : Trial Unit :=
  match refusal? with
  | none => Buffer.flush path kept
  | some complaint => do
    let _ ← Trial.of (Buffer.flush path kept).run
    throw (.notSerialized complaint)

/-- Writes the report. -/
def save (serializer : Serializer) (settings : Settings) (report : BatchReport) : Trial Unit := do
  let path := settings.reportFile
  Trial.change none (·.createFolders settings.resultsFolder)
  Trial.tell .reportFile .debug ("writing the JSON report to `" ++ path.shown ++ "`")
  Trial.change (some (.createFile path)) (Step.whole (·.write path []))
  let serialized := serializer.serialize report.json
  let kept ← Buffer.putAll path (serialized.pieces.map Text.encode)
  close path kept serialized.refusal?

end BatchReport

end ApkFeatures
