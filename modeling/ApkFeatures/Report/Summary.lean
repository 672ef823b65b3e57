/-
**The report as messages.**

What is told at the end of a batch: for each task how many tables were written and how many are
missing, then where the merged tables are. With details, each missing table is told with its reason.
-/
import ApkFeatures.Report.Basic
import ApkFeatures.Settings.Basic
import ApkFeatures.Step
import ApkFeatures.Text.Quoted

namespace ApkFeatures

/-- A reason as it is told. -/
def shownReason (reason : String) : String :=
  "Skipped \x7b reason: " ++ Text.quoted reason ++ " \x7d"

namespace TaskReport

/-- The families of the task as they are told. -/
def familyTitles (report : TaskReport) : String :=
  " and ".intercalate (report.task.families.map Family.title)

/-- What is told of a task. -/
def summary (settings : Settings) (report : TaskReport) : List Message :=
  match report.failure? with
  | some failure =>
    [{ origin := .summary, level := .error
       text := "the " ++ report.familyTitles ++ " extraction did not finish: " ++ failure }]
  | none =>
    let counts : Message :=
      { origin := .summary, level := .info
        text := report.familyTitles ++ " extraction: " ++ toString report.extracted ++
          " feature files written, " ++ toString report.skipped.length ++ " skipped." }
    let details := report.outcomes.filterMap fun outcome =>
      match outcome.status with
      | .extracted _ => none
      | .skipped reason => some
          { origin := .summary, level := .debug
            text := outcome.family.title ++ " of " ++ outcome.application ++ " skipped: " ++
              shownReason reason }
    counts :: (if settings.verbose then details else [])

end TaskReport

/-- What is told of a merged table. -/
def Dataset.summary (dataset : Dataset) : Message where
  origin := .summary
  level := .info
  text := dataset.family.title ++ " dataset with " ++ toString dataset.rows ++
    " applications written to `" ++ dataset.path.shown ++ "`."

/-- What is told of a batch. -/
def BatchReport.summary (settings : Settings) (report : BatchReport) : List Message :=
  { origin := .summary, level := .info
    text := "Summary of `" ++ report.directory.shown ++ "`:" } ::
    report.tasks.flatMap (TaskReport.summary settings) ++ report.datasets.map Dataset.summary

end ApkFeatures
