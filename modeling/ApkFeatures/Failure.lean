/-
**Failures of a run.**

Why an artifact, a table or a report could not be had. The wording names what was tried, and what
stood in the way where that is known better than as a fault of the file system.
-/
import ApkFeatures.CallGraph.Schema
import ApkFeatures.FileTree.Resolve
import ApkFeatures.Settings.Quoted

namespace ApkFeatures

/-- The tools that a run calls. -/
inductive Tool where
  /-- Decompresses an application. -/
  | apktool
  /-- Makes a call graph. -/
  | androguard
deriving DecidableEq

/-- The name of a tool in messages. -/
def Tool.name : Tool → String
  | apktool => "apktool"
  | androguard => "androguard"

/-- What was tried. -/
inductive Attempt where
  /-- A file was to be read. -/
  | readFile (path : FilePath)
  /-- A call graph was to be read. -/
  | readCallGraph (path : FilePath)
  /-- A folder was to be read. -/
  | readFolder (path : FilePath)
  /-- A file was to be made. -/
  | createFile (path : FilePath)
  /-- A folder was to be made. -/
  | createFolder (path : FilePath)
  /-- A manifest was to be copied. -/
  | copyManifest (path : FilePath)
  /-- A tool was to be called. -/
  | execute (tool : Tool)
deriving DecidableEq

/-- The wording of an attempt that was not successful. -/
def Attempt.message : Attempt → String
  | readFile path => "could not read `" ++ path.shown ++ "`"
  | readCallGraph path => "could not read call graph `" ++ path.shown ++ "`"
  | readFolder path => "could not read directory `" ++ path.shown ++ "`"
  | createFile path => "could not create `" ++ path.shown ++ "`"
  | createFolder path => "could not create folder `" ++ path.shown ++ "`"
  | copyManifest path => "could not copy the manifest to `" ++ path.shown ++ "`"
  | execute tool => "could not execute " ++ tool.name

/-- Why something could not be had. -/
inductive Failure where
  /-- A settings file is not one. -/
  | settings (path : FilePath) (fault : Settings.Fault)
  /-- A call graph file is not one. -/
  | callGraph (fault : CallGraph.LoadFault)
  /-- A manifest is no XML document; what its reader says. -/
  | manifest (complaint : String)
  /-- A tool ended with an error. -/
  | tool (failed : Tool) (complaint : String)
  /-- A file that should be there is missing. -/
  | missing (path : FilePath)
  /-- An attempt was not successful. -/
  | attempt (tried : Attempt)
  /-- The file system refused something. -/
  | files (fault : FileTree.Fault)
  /-- A report cannot be serialized; what its serializer says. -/
  | notSerialized (complaint : String)

/-- The wording of a failure. -/
def Failure.message : Failure → String
  | settings path fault =>
    "there was an error in the configuration: `" ++ path.shown ++ "`: " ++ fault.message
  | callGraph fault => fault.message
  | manifest complaint => "the manifest is not valid XML: " ++ complaint
  | tool failed complaint => failed.name ++ " returned an error. More info: " ++ complaint
  | missing path => "expected file `" ++ path.shown ++ "` was not found"
  | attempt tried => tried.message
  | files fault => fault.message
  | notSerialized complaint => complaint

end ApkFeatures
