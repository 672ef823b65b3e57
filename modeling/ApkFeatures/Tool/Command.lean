/-
**Calling tools.**

A tool is a program outside of the run. What calling one does to the files is not known here: it is
given by a `Toolbox`, which may answer as it likes, as long as it answers. A tool cannot move the
folder where paths start.
-/
import ApkFeatures.Step
import ApkFeatures.Text.Blank
import ApkFeatures.Text.Quoted

namespace ApkFeatures

/-- A program with its arguments. -/
structure Command where
  /-- The name or the path of the program. -/
  program : Bytes
  /-- The arguments. -/
  arguments : List Bytes
deriving DecidableEq

/-- How a command ends. -/
inductive Ending where
  /-- The program could not be started. -/
  | notStarted
  /-- The program ended, with or without success, and wrote a complaint. -/
  | ended (success : Bool) (complaint : Bytes)
deriving DecidableEq

/-- What commands do to the files. -/
abbrev Toolbox := Command → FileTree → Ending × FileTree

namespace Command

/-- No program is started with a word that holds a zero byte. -/
def isAllowed (command : Command) : Bool :=
  (command.program :: command.arguments).all fun word => !word.contains 0

/-- A word of a command as it is told. -/
def shownWord (word : Bytes) : String :=
  if word.contains 0 then "\"<string-with-nul>\"" else Text.quotedBytes word

/-- A command as it is told. -/
def shown (command : Command) : String :=
  " ".intercalate ((command.program :: command.arguments).map shownWord)

/-- Runs a command. -/
def run (command : Command) (tools : Toolbox) : Step Ending :=
  Step.change fun tree =>
    if command.isAllowed then
      let (ending, after) := tools command tree
      (ending, after.startingAt tree.workingFolder)
    else (.notStarted, tree)

end Command

/-- What is told of a complaint: its text without the blanks around it. -/
def shownComplaint (complaint : Bytes) : String :=
  String.ofList (Text.trim (Text.shown complaint).toList)

/-- Calls a tool, which has to end with success. -/
def Tool.call (tool : Tool) (tools : Toolbox) (command : Command) : Trial Unit := do
  Trial.tell .artifacts .debug ("running " ++ command.shown)
  match ← Trial.of (command.run tools) with
  | .notStarted => throw (.attempt (.execute tool))
  | .ended true _ => pure ()
  | .ended false complaint => throw (.tool tool (shownComplaint complaint))

end ApkFeatures
