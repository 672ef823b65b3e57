/-
**Applications.**

An application is a package, named after its file: the file name without the ending `apk`. In a
folder, packages are taken in ascending order of their paths, and the first package of a name is the
application.

* `Application.ofPackage?` — the application of a package.
* `Application.select` — the applications among some packages, and what is left out.
* `Application.list` — the applications of a folder.
-/
import ApkFeatures.Step

namespace ApkFeatures

/-- An application to be analysed. -/
structure Application where
  /-- Its name. -/
  name : String
  /-- Its package. -/
  package : FilePath
deriving DecidableEq

namespace Application

/-- The name of the application in a package, as bytes. -/
def nameBytes? (package : FilePath) : Option Bytes :=
  if package.ending? = some (Text.encode "apk") then package.stem? else package.fileName?

/-- The application of a package; none if the package has no name that is a text. -/
def ofPackage? (package : FilePath) : Option Application :=
  ((nameBytes? package).bind Text.decode?).map fun name => ⟨name, package⟩

/-- Why a package is left out. -/
inductive Omission where
  /-- Another application has its name. -/
  | sameName (package : FilePath)
  /-- Its name is no text. -/
  | noName (package : FilePath)
deriving DecidableEq

/-- The wording of an omission. -/
def Omission.message : Omission → String
  | sameName package =>
    "`" ++ package.shown ++ "` has the same name as another application, it will be skipped"
  | noName package => "`" ++ package.shown ++ "` does not have a valid file name"

/-- The applications of packages, in their order, besides those with one of the names that are
taken, and what is left out. -/
def select (taken : List String) : List FilePath → List Application × List Omission
  | [] => ([], [])
  | package :: rest =>
    match ofPackage? package with
    | none =>
      let (kept, omitted) := select taken rest
      (kept, .noName package :: omitted)
    | some application =>
      if taken.contains application.name then
        let (kept, omitted) := select taken rest
        (kept, .sameName package :: omitted)
      else
        let (kept, omitted) := select (application.name :: taken) rest
        (application :: kept, omitted)

/-- Packages in ascending order. -/
def sorted (packages : List FilePath) : List FilePath :=
  packages.mergeSort fun a b => decide (a.order ≤ b.order)

/-- The applications of a folder: its files are the packages. -/
def list (folder : FilePath) : Trial (List Application) := do
  let names ← Trial.ask (some (.readFolder folder)) (·.list folder)
  let packages ← Trial.of <| Step.ask fun tree =>
    (names.map fun name => folder.join ⟨name⟩).filter tree.isFile
  let (applications, omitted) := select [] (sorted packages)
  Trial.of <| Step.tellAll <| omitted.map fun omission =>
    { origin := .applications, level := .warn, text := omission.message }
  return applications

end Application

end ApkFeatures
