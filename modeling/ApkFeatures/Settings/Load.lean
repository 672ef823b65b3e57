/-
**Settings from a file.**

The fields of a settings file change the default settings. A field that is no setting, a value of
the wrong kind and a repeated field are faults, so every file that is accepted says what it seems
to say.

* `Settings.ofText` — the settings of a text.
* `Settings.problems` — what keeps settings from being useful.
-/
import ApkFeatures.Settings.Basic
import ApkFeatures.Settings.Reader
import ApkFeatures.FileTree.Access
import ApkFeatures.Text.Blank

namespace ApkFeatures.Settings

/-- Changes one setting. -/
def set (settings : Settings) : String × Value → Except Fault Settings
  | ("verbose", .flag value) => .ok { settings with verbose := value }
  | ("force", .flag value) => .ok { settings with force := value }
  | ("extract", .flag value) => .ok { settings with extract := value }
  | ("merge", .flag value) => .ok { settings with merge := value }
  | ("results_folder", .text value) => .ok { settings with resultsFolder := .ofString value }
  | ("manifests_folder", .text value) => .ok { settings with manifestsFolder := .ofString value }
  | ("callgraphs_folder", .text value) => .ok { settings with callGraphsFolder := .ofString value }
  | ("dist_folder", .text value) => .ok { settings with decompressedFolder := .ofString value }
  | ("apktool_file", .text value) => .ok { settings with apktool := .ofString value }
  | ("androguard_command", .text value) => .ok { settings with androguard := value }
  | (name, _) => .error (if names.contains name then .wrongKind else .unknownSetting)
where
  /-- The names of the settings. -/
  names : List String := ["verbose", "force", "extract", "merge", "results_folder",
    "manifests_folder", "callgraphs_folder", "dist_folder", "apktool_file", "androguard_command"]

/-- The default settings, changed by the fields. -/
def ofFields (fields : List (String × Value)) : Except Fault Settings :=
  if (fields.map Prod.fst).Nodup then fields.foldlM set {} else .error .repeatedSetting

/-- The settings of a text. -/
def ofText (text : List Char) : Except Fault Settings := do ofFields (← fields text)

/-- The file of the settings. -/
def localFile : FilePath := .ofString "config.toml"

/-- The file of the settings of a machine, used if there is no other. -/
def globalFile : FilePath := .ofString "/etc/droid-features/config.toml"

/-! ### Problems -/

/-- What keeps settings from being useful. -/
inductive Problem where
  /-- The program that decompresses applications is of another kind. -/
  | notArchive (path : FilePath)
  /-- The program that decompresses applications does not exist. -/
  | noArchive (path : FilePath)
  /-- There is no command that makes call graphs. -/
  | noCommand
deriving DecidableEq

/-- The wording of a problem. -/
def Problem.message : Problem → String
  | notArchive path => "the apktool file `" ++ path.shown ++ "` must be a JAR file"
  | noArchive path =>
    "the apktool file `" ++ path.shown ++ "` does not exist, manifests will not be extracted"
  | noCommand => "the androguard command must not be empty"

/-- The problems of the settings, which only matter if the tools are called. -/
def problems (settings : Settings) (tree : FileTree) : List Problem :=
  if settings.extract then
    let archive :=
      if settings.apktool.ending? ≠ some (Text.encode "jar") then [.notArchive settings.apktool]
      else if !tree.contains settings.apktool then [.noArchive settings.apktool]
      else []
    let command := if (Text.trim settings.androguard.toList).isEmpty then [.noCommand] else []
    archive ++ command
  else []

end ApkFeatures.Settings
