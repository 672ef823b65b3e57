/-
**Settings.**

What a run can be told: which steps to take, where to keep what it makes, and how to call the tools.
Every setting has a default. The settings also fix where each kind of file lies.
-/
import ApkFeatures.Family
import ApkFeatures.FilePath

namespace ApkFeatures

/-- What a run can be told. -/
structure Settings where
  /-- Details are told too. -/
  verbose : Bool := false
  /-- What the tools make is made again even if it is there. -/
  force : Bool := false
  /-- The tools are called for what is missing. -/
  extract : Bool := true
  /-- The tables of single applications are merged. -/
  merge : Bool := true
  /-- Where the tables and the report are kept. -/
  resultsFolder : FilePath := .ofString "."
  /-- Where manifests are kept. -/
  manifestsFolder : FilePath := .ofString "manifests"
  /-- Where call graphs are kept. -/
  callGraphsFolder : FilePath := .ofString "callgraphs"
  /-- Where applications are decompressed. -/
  decompressedFolder : FilePath := .ofString "apkd"
  /-- The program that decompresses applications. -/
  apktool : FilePath := .ofString "apktool.jar"
  /-- The command that makes call graphs. -/
  androguard : String := "androguard"
deriving DecidableEq

namespace Settings

/-- The folder of the tables of a family. -/
def familyFolder (settings : Settings) (family : Family) : FilePath :=
  settings.resultsFolder.child family.folderName

/-- The table of a family for an application. -/
def tableFile (settings : Settings) (family : Family) (application : String) : FilePath :=
  (settings.familyFolder family).child (application ++ ".csv")

/-- The merged table of a family. -/
def datasetFile (settings : Settings) (family : Family) : FilePath :=
  settings.resultsFolder.child family.datasetName

/-- The report of a batch. -/
def reportFile (settings : Settings) : FilePath := settings.resultsFolder.child "report.json"

/-- The manifest of an application. -/
def manifestFile (settings : Settings) (application : String) : FilePath :=
  settings.manifestsFolder.child (application ++ "_AndroidManifest.xml")

/-- The call graph of an application. -/
def callGraphFile (settings : Settings) (application : String) : FilePath :=
  settings.callGraphsFolder.child (application ++ "_callgraph.gml")

/-- The folder into which an application is decompressed. -/
def decompressed (settings : Settings) (application : String) : FilePath :=
  settings.decompressedFolder.child application

end Settings

end ApkFeatures
