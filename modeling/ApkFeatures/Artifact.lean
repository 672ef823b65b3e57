/-
**Artifacts.**

An artifact is what the analyses read of an application: its manifest, and its call graph. An
artifact that is there is reused, unless it has to be made again; one that is missing is made by a
tool, if tools may be called at all.

* `Artifact.extractManifest` — the manifest, decompressed and copied.
* `Artifact.extractCallGraph` — the call graph, written by its tool.
-/
import ApkFeatures.Application
import ApkFeatures.Settings.Basic
import ApkFeatures.Tool.Command

namespace ApkFeatures.Artifact

/-- An artifact can be reused as it is. Without tools it has to be. -/
def isReusable (settings : Settings) (artifact : FilePath) : Trial Bool := do
  let present ← Trial.of <| Step.ask (·.hasContent artifact)
  if settings.extract then return !settings.force && present
  else if present then return true
  else throw (.missing artifact)

/-- There has to be a file with some content. -/
def require (artifact : FilePath) : Trial Unit := do
  unless ← Trial.of <| Step.ask (·.hasContent artifact) do throw (.missing artifact)

/-- The command that decompresses an application. -/
def decompression (settings : Settings) (application : Application) : Command where
  program := Text.encode "java"
  arguments := [Text.encode "-jar", settings.apktool.bytes, Text.encode "d", Text.encode "-f",
    Text.encode "-o", (settings.decompressed application.name).bytes, application.package.bytes]

/-- The command that makes the call graph of an application. -/
def callGraphing (settings : Settings) (application : Application) : Command where
  program := Text.encode settings.androguard
  arguments := [Text.encode "cg", Text.encode "-o",
    (settings.callGraphFile application.name).bytes, application.package.bytes]

/-- Decompresses an application into a folder of its own, which is removed before. -/
def decompress (tools : Toolbox) (settings : Settings) (application : Application) :
    Trial Unit := do
  let folder := settings.decompressed application.name
  if ← Trial.of <| Step.ask (·.contains folder) then
    match ← Trial.of <| Step.change (·.removeFolder folder) with
    | .ok () => pure ()
    | .error fault =>
      Trial.tell .artifacts .warn
        ("there was an error when removing the decompression folder: " ++ fault.message)
  Trial.tell .artifacts .info ("decompressing " ++ application.name)
  Tool.apktool.call tools (decompression settings application)

/-- The manifest of an application. -/
def extractManifest (tools : Toolbox) (settings : Settings) (application : Application) :
    Trial FilePath := do
  let manifest := settings.manifestFile application.name
  if ← isReusable settings manifest then
    Trial.tell .artifacts .debug ("reusing the manifest of " ++ application.name)
    return manifest
  else
    let source := (settings.decompressed application.name).child "AndroidManifest.xml"
    let present ← Trial.of <| Step.ask (·.hasContent source)
    if settings.force || !present then decompress tools settings application
    require source
    Trial.change (some (.copyManifest manifest)) (·.copyInto source manifest)
    return manifest

/-- The call graph of an application. -/
def extractCallGraph (tools : Toolbox) (settings : Settings) (application : Application) :
    Trial FilePath := do
  let callGraph := settings.callGraphFile application.name
  if ← isReusable settings callGraph then
    Trial.tell .artifacts .debug ("reusing the call graph of " ++ application.name)
    return callGraph
  else
    Trial.change none (·.createFolders settings.callGraphsFolder)
    if ← Trial.of <| Step.ask (·.contains callGraph) then
      Trial.change none (Step.whole (·.removeFile callGraph))
    Trial.tell .artifacts .info ("generating the call graph of " ++ application.name)
    Tool.androguard.call tools (callGraphing settings application)
    require callGraph
    return callGraph

end ApkFeatures.Artifact
