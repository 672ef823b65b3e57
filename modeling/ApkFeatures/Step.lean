/-
**Steps of a run.**

A step works on a tree of files and tells what it does. A step that may fail keeps what it has
changed and told when it does.

* `Step` — a step that gives a result in any case.
* `Trial` — a step that gives a result or fails.
-/
import ApkFeatures.Failure
import ApkFeatures.FileTree.Access
import ApkFeatures.Log

namespace ApkFeatures

/-- How far a run has come. -/
structure Progress where
  /-- The files. -/
  tree : FileTree
  /-- What has been told, in order. -/
  told : List Message

/-- A step of a run. -/
abbrev Step := StateM Progress

/-- A step of a run that may fail. -/
abbrev Trial := ExceptT Failure Step

namespace Step

/-- Tells something. -/
def tell (origin : Origin) (level : Level) (text : String) : Step Unit :=
  modify fun progress => { progress with told := progress.told ++ [{ origin, level, text }] }

/-- Tells some messages. -/
def tellAll (messages : List Message) : Step Unit :=
  modify fun progress => { progress with told := progress.told ++ messages }

/-- A step whose messages are those of a task. -/
def within {α : Type} (task : Task) (step : Step α) : Step α := fun progress =>
  let (result, after) := step { progress with told := [] }
  (result, { after with
    told := progress.told ++ after.told.map fun message => { message with task? := some task } })

/-- Asks something of the files. -/
def ask {α : Type} (question : FileTree → α) : Step α := do return question (← get).tree

/-- Changes the files, and gives the result of the change. -/
def change {α : Type} (action : FileTree → α × FileTree) : Step α := do
  let (result, tree) := action (← get).tree
  modify fun progress => { progress with tree := tree }
  return result

/-- A change that is made as a whole or not at all. -/
def whole (action : FileTree → Except FileTree.Fault FileTree) (tree : FileTree) :
    Except FileTree.Fault Unit × FileTree :=
  match action tree with
  | .ok changed => (.ok (), changed)
  | .error fault => (.error fault, tree)

end Step

namespace Trial

/-- A step that does not fail. -/
def of {α : Type} (step : Step α) : Trial α := ExceptT.lift step

/-- Tells something. -/
def tell (origin : Origin) (level : Level) (text : String) : Trial Unit :=
  of (Step.tell origin level text)

/-- What the file system refuses is a failure; `attempt?` says how it is told. -/
def settle {α : Type} (attempt? : Option Attempt) : Except FileTree.Fault α → Trial α
  | .ok result => pure result
  | .error fault =>
    throw (match attempt? with | some attempt => .attempt attempt | none => .files fault)

/-- Asks something of the files. -/
def ask {α : Type} (attempt? : Option Attempt) (question : FileTree → Except FileTree.Fault α) :
    Trial α := do
  settle attempt? (← of (Step.ask question))

/-- Changes the files. -/
def change (attempt? : Option Attempt)
    (action : FileTree → Except FileTree.Fault Unit × FileTree) : Trial Unit := do
  settle attempt? (← of (Step.change action))

end Trial

end ApkFeatures
