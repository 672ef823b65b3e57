/-
**What a batch reports.**

For every application and family there is an outcome: the table that was written, or the reason why
there is none. Outcomes are reported by task; a task that did not end has a failure instead.
-/
import ApkFeatures.Family
import ApkFeatures.FilePath

namespace ApkFeatures

/-- How the work on a family of an application ended. -/
inductive Status where
  /-- A table was written. -/
  | extracted (output : FilePath)
  /-- There is no table. -/
  | skipped (reason : String)
deriving DecidableEq

/-- How the work on an application ended. -/
structure Outcome where
  /-- The name of the application. -/
  application : String
  /-- The family. -/
  family : Family
  /-- The end. -/
  status : Status
deriving DecidableEq

namespace Outcome

/-- A table was written. -/
def isExtracted (outcome : Outcome) : Bool :=
  match outcome.status with
  | .extracted _ => true
  | .skipped _ => false

/-- The table that was written. -/
def output? (outcome : Outcome) : Option FilePath :=
  match outcome.status with
  | .extracted output => some output
  | .skipped _ => none

end Outcome

/-- The report of a task. -/
structure TaskReport where
  /-- The task. -/
  task : Task
  /-- Its outcomes. -/
  outcomes : List Outcome
  /-- Why it did not end, if it did not. -/
  failure? : Option String
deriving DecidableEq

namespace TaskReport

/-- The report of a task that ended. -/
def completed (task : Task) (outcomes : List Outcome) : TaskReport := ⟨task, outcomes, none⟩

/-- The report of a task that did not end. -/
def failed (task : Task) (failure : String) : TaskReport := ⟨task, [], some failure⟩

/-- The number of tables written. -/
def extracted (report : TaskReport) : Nat := (report.outcomes.filter Outcome.isExtracted).length

/-- The outcomes without a table. -/
def skipped (report : TaskReport) : List Outcome :=
  report.outcomes.filter fun outcome => !outcome.isExtracted

end TaskReport

/-- A merged table. -/
structure Dataset where
  /-- Its family. -/
  family : Family
  /-- Where it was written. -/
  path : FilePath
  /-- The number of its applications. -/
  rows : Nat
deriving DecidableEq

/-- The report of a batch. -/
structure BatchReport where
  /-- The folder of the applications. -/
  directory : FilePath
  /-- When the batch began. -/
  started : String
  /-- When the batch ended, if it has. -/
  finished? : Option String
  /-- The reports of the tasks. -/
  tasks : List TaskReport
  /-- The merged tables. -/
  datasets : List Dataset
deriving DecidableEq

namespace BatchReport

/-- The report of a batch that begins. -/
def start (directory : FilePath) (now : String) : BatchReport := ⟨directory, now, none, [], []⟩

/-- Adds the report of a task. -/
def addTask (report : BatchReport) (task : TaskReport) : BatchReport :=
  { report with tasks := report.tasks ++ [task] }

/-- Adds a merged table. -/
def addDataset (report : BatchReport) (dataset : Dataset) : BatchReport :=
  { report with datasets := report.datasets ++ [dataset] }

/-- Ends the batch. -/
def finish (report : BatchReport) (now : String) : BatchReport :=
  { report with finished? := some now }

/-- The first report of a task. -/
def task? (report : BatchReport) (task : Task) : Option TaskReport :=
  report.tasks.find? fun entry => entry.task = task

/-- The tables written for a family. -/
def outputs (report : BatchReport) (family : Family) : List FilePath :=
  ((report.tasks.flatMap TaskReport.outcomes).filter fun outcome =>
    outcome.family = family).filterMap Outcome.output?

end BatchReport

end ApkFeatures
