/-
**A run of the program.**

A run reads its arguments and its settings, analyses a folder and prints what it tells. Settings
that cannot be read are replaced by the defaults. A folder that cannot be read is told, and does
not change the code with which the run ends.

* `CommandLine.run` — a run on the files of a tree.
-/
import ApkFeatures.Batch
import ApkFeatures.CommandLine.Arguments
import ApkFeatures.CommandLine.LogFilter
import ApkFeatures.Settings.File

namespace ApkFeatures.CommandLine

/-- What a run leaves. -/
structure Exit where
  /-- Its code. -/
  code : Nat
  /-- What it has printed. -/
  output : String
  /-- What it has told. -/
  errors : String

/-- How a run is called. -/
structure Call where
  /-- Its arguments. -/
  arguments : List String
  /-- The specification of the messages that are shown, if there is one. -/
  specification? : Option String
  /-- When it begins and ends. -/
  times : Batch.Times

/-- The settings of a run, and why they are the defaults if they could not be read. -/
def settings : Step (Settings × Option Failure) := do
  match ← Settings.load.run with
  | .ok settings => return (settings, none)
  | .error failure => return ({}, some failure)

/-- What is told of the settings before the analysis. -/
def settingsMessages (settings : Settings) (failure? : Option Failure) (tree : FileTree) :
    List Message :=
  let texts :=
    (failure?.toList.map fun failure =>
      "there was an error loading the configuration, the defaults will be used: " ++
        failure.message) ++ (settings.problems tree).map Settings.Problem.message
  texts.map fun text => { origin := .batch, level := .warn, text }

/-- Analyses a folder. -/
def analyse (formats : Formats) (tools : Toolbox) (settings : Settings) (times : Batch.Times)
    (directory : FilePath) : Step Unit := do
  unless ← Step.ask (·.isFolder directory) do
    Step.tell .batch .warn ("`" ++ directory.shown ++ "` is not a directory")
  match ← (Batch.analyse formats tools settings times directory).run with
  | .ok _ =>
    Step.tell .batch .info ("Done. The report can be found in `" ++ settings.reportFile.shown ++
      "`.")
  | .error failure => Step.tell .batch .error failure.message

/-- Lines, each ended. -/
def printed (lines : List String) : String := String.join (lines.map (· ++ "\n"))

/-- The part of a run that works on files. -/
def work (formats : Formats) (tools : Toolbox) (call : Call) (directory : FilePath) :
    Step (LogFilter × List String) := do
  let (settings, failure?) ← settings
  let chosen :=
    match call.specification? with
    | none => (LogFilter.ofVerbosity settings.verbose, [])
    | some specification => LogFilter.ofSpecification specification
  Step.tellAll (← Step.ask (settingsMessages settings failure?))
  analyse formats tools settings call.times directory
  return chosen

/-- A run of the program: what it leaves, and the files after it. -/
def run (formats : Formats) (tools : Toolbox) (call : Call) (tree : FileTree) :
    Exit × FileTree :=
  match Request.ofArguments call.arguments with
  | .error refusal => (⟨1, "", printed [refusal.message]⟩, tree)
  | .ok (.flag flag) => (⟨0, printed [flag.text], ""⟩, tree)
  | .ok (.folder path) =>
    let ((filter, warnings), progress) := work formats tools call (.ofString path) ⟨tree, []⟩
    let lines := (progress.told.filter filter.shows).map Message.line
    (⟨0, "", printed (warnings ++ lines)⟩, progress.tree)

end ApkFeatures.CommandLine
