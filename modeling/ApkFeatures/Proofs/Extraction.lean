/-
**What is extracted can be used, and is not extracted twice.**

An artifact is extracted in several ways: it is there already, it is copied from what has been
decompressed before, or a tool makes it. A tool may do anything to the files, so nothing is known of
them until the artifact is looked at again: what is given back is a file with content in any case.
That is all that is asked for when the artifact is reused.

* `extract`, `make` — the artifact of a family, and how it is made if it is not reused.
* `extract_run`, `extract_of_reusable`, `extract_of_forced` — what is reused and what is made.
* `hasContent_of_make` — what is made has content.
* `extract_spec` — what is given back can be used and is reused, whatever the tools do.
-/
import ApkFeatures.Artifact
import ApkFeatures.Proofs.Application
import ApkFeatures.Proofs.FileTree.Copying

namespace ApkFeatures

open FilePath FileTree

/-- A trial of two parts succeeds if both do. -/
theorem Trial.run_bind_eq_ok {α β : Type} {first : Trial α} {next : α → Trial β}
    {progress reached : Progress} {value : β} :
    (first >>= next).run progress = (.ok value, reached) ↔
      ∃ given between, first.run progress = (.ok given, between) ∧
        (next given).run between = (.ok value, reached) := by
  rw [Trial.run_bind]
  rcases first.run progress with ⟨failure | given, between⟩
  · constructor
    · rintro ⟨⟩
    · rintro ⟨given, between, ⟨⟩, -⟩
  · constructor
    · exact fun later => ⟨given, between, rfl, later⟩
    · rintro ⟨given, between, ⟨⟩, later⟩
      exact later

/-- A change that succeeds is the change. -/
theorem Trial.run_change_eq_ok {attempt? : Option Attempt}
    {action : FileTree → Except FileTree.Fault Unit × FileTree} {progress reached : Progress} :
    (Trial.change attempt? action).run progress = (.ok (), reached) ↔
      action progress.tree = (.ok (), reached.tree) ∧ reached.told = progress.told := by
  rw [Trial.run_change]
  rcases action progress.tree with ⟨fault | done, changed⟩
  · constructor
    · rintro ⟨⟩
    · rintro ⟨⟨⟩, -⟩
  · rw [Trial.run_settle_ok]
    constructor
    · rintro ⟨⟩
      exact ⟨rfl, rfl⟩
    · rintro ⟨⟨⟩, same⟩
      rw [← same]

namespace Artifact

variable {tools : Toolbox} {settings : Settings} {application : Application} {family : Family}
  {package artifact : FilePath} {progress reached : Progress}

/-! ### Artifacts by family -/

/-- The artifact that is read for a family, extracted. -/
def extract (tools : Toolbox) (settings : Settings) (application : Application) :
    Family → Trial FilePath
  | .permissions => extractManifest tools settings application
  | .intents => extractManifest tools settings application
  | .sensitiveApis => extractCallGraph tools settings application

/-- The manifest in the folder into which an application is decompressed. -/
def sourceFile (settings : Settings) (application : Application) : FilePath :=
  (settings.decompressed application.name).child "AndroidManifest.xml"

/-- The manifest, copied from what has been decompressed. -/
def copyManifest (settings : Settings) (application : Application) : Trial FilePath := do
  let manifest := settings.manifestFile application.name
  require (sourceFile settings application)
  Trial.change (some (.copyManifest manifest)) (·.copyInto (sourceFile settings application) manifest)
  return manifest

/-- The manifest, made from what is decompressed. -/
def makeManifest (tools : Toolbox) (settings : Settings) (application : Application) :
    Trial FilePath := do
  let present ← Trial.of <| Step.ask (·.hasContent (sourceFile settings application))
  if settings.force || !present then decompress tools settings application
  copyManifest settings application

/-- An old call graph is removed. -/
def removeCallGraph (settings : Settings) (application : Application) : Trial Unit := do
  let callGraph := settings.callGraphFile application.name
  Trial.change none (·.createFolders settings.callGraphsFolder)
  if ← Trial.of <| Step.ask (·.contains callGraph) then
    Trial.change none (Step.whole (·.removeFile callGraph))

/-- The call graph, made by its tool. -/
def makeCallGraph (tools : Toolbox) (settings : Settings) (application : Application) :
    Trial FilePath := do
  let callGraph := settings.callGraphFile application.name
  removeCallGraph settings application
  Trial.tell .artifacts .info ("generating the call graph of " ++ application.name)
  Tool.androguard.call tools (callGraphing settings application)
  require callGraph
  return callGraph

/-- The artifact that is read for a family, made if it is not reused. -/
def make (tools : Toolbox) (settings : Settings) (application : Application) :
    Family → Trial FilePath
  | .permissions => makeManifest tools settings application
  | .intents => makeManifest tools settings application
  | .sensitiveApis => makeCallGraph tools settings application

/-- What is told when the artifact that is read for a family is reused. -/
def reuse (application : Application) : Family → Message
  | .permissions => ⟨.artifacts, .debug, "reusing the manifest of " ++ application.name, none⟩
  | .intents => ⟨.artifacts, .debug, "reusing the manifest of " ++ application.name, none⟩
  | .sensitiveApis => ⟨.artifacts, .debug, "reusing the call graph of " ++ application.name, none⟩

theorem extract_eq (tools : Toolbox) (settings : Settings) (application : Application)
    (family : Family) :
    extract tools settings application family =
      isReusable settings (settings.artifactFile family application.name) >>= fun reusable =>
        if reusable then
          Trial.of (Step.tellAll [reuse application family]) >>= fun _ =>
            pure (settings.artifactFile family application.name)
        else make tools settings application family := by
  cases family with
  | permissions => rfl
  | intents => rfl
  | sensitiveApis =>
    refine bind_congr fun reusable => ?_
    cases reusable with
    | true => rfl
    | false =>
      rw [make, makeCallGraph, removeCallGraph]
      simp only [bind_assoc, Bool.false_eq_true, if_false]
      refine bind_congr fun _ => bind_congr fun present => ?_
      cases present with
      | true => rfl
      | false => rfl

/-! ### What is asked of the files -/

theorem isReusable_run (settings : Settings) (artifact : FilePath) (progress : Progress) :
    (isReusable settings artifact).run progress =
      (if settings.extract then .ok (!settings.force && progress.tree.hasContent artifact)
        else if progress.tree.hasContent artifact then .ok true else .error (.missing artifact),
        progress) := by
  rw [isReusable, Trial.run_of_bind, Step.ask_apply]
  cases settings.extract with
  | true => rfl
  | false => cases progress.tree.hasContent artifact <;> rfl

theorem require_run (artifact : FilePath) (progress : Progress) :
    (require artifact).run progress =
      (if progress.tree.hasContent artifact then .ok () else .error (.missing artifact),
        progress) := by
  rw [require, Trial.run_of_bind, Step.ask_apply]
  cases progress.tree.hasContent artifact <;> rfl

/-- What is required is there. -/
theorem require_eq_ok (required : (require artifact).run progress = (.ok (), reached)) :
    reached = progress ∧ progress.tree.hasContent artifact = true := by
  rw [require_run] at required
  cases present : progress.tree.hasContent artifact with
  | true =>
    rw [present] at required
    cases required
    exact ⟨rfl, rfl⟩
  | false =>
    rw [present] at required
    cases required

/-- **What is reused and what is made.** Nothing is changed by asking. -/
theorem extract_run (tools : Toolbox) (settings : Settings) (application : Application)
    (family : Family) (progress : Progress) :
    (extract tools settings application family).run progress =
      if progress.tree.hasContent (settings.artifactFile family application.name) &&
          (!settings.extract || !settings.force) then
        (.ok (settings.artifactFile family application.name),
          { progress with told := progress.told ++ [reuse application family] })
      else if settings.extract then (make tools settings application family).run progress
      else (.error (.missing (settings.artifactFile family application.name)), progress) := by
  rw [extract_eq, Trial.run_bind, isReusable_run]
  cases settings.extract with
  | true =>
    cases settings.force with
    | true => simp
    | false =>
      cases progress.tree.hasContent (settings.artifactFile family application.name) <;> rfl
  | false => cases progress.tree.hasContent (settings.artifactFile family application.name) <;> rfl

/-- **What can be reused is reused.** -/
theorem extract_of_reusable (tools : Toolbox) (application : Application) {family : Family}
    (present : progress.tree.hasContent (settings.artifactFile family application.name) = true)
    (unforced : settings.extract = false ∨ settings.force = false) :
    (extract tools settings application family).run progress =
      (.ok (settings.artifactFile family application.name),
        { progress with told := progress.told ++ [reuse application family] }) := by
  have kept : (!settings.extract || !settings.force) = true := by
    rcases unforced with off | unforced
    · rw [off]
      rfl
    · rw [unforced, Bool.not_false, Bool.or_true]
  rw [extract_run, present, kept]
  rfl

/-- **What has to be made again is made**, whatever is there. -/
theorem extract_of_forced (tools : Toolbox) (application : Application) (family : Family)
    (tooled : settings.extract = true) (forced : settings.force = true) (progress : Progress) :
    (extract tools settings application family).run progress =
      (make tools settings application family).run progress := by
  rw [extract_run, tooled, forced, Bool.not_true, Bool.or_self, Bool.and_false]
  rfl

/-! ### What is made -/

/-- **The manifest of an application does not lie where its source does**, whatever the folders are:
it has a longer name. -/
theorem sourcePlace_ne_manifestPlace (made : Application.ofPackage? package = some application)
    (settings : Settings) (base : Location) :
    (sourceFile settings application).placeFrom base ≠
      (settings.manifestFile application.name).placeFrom base := by
  obtain ⟨plain, written⟩ := Application.name_of_ofPackage? made
  have source : IsName (Text.encode "AndroidManifest.xml") := ⟨by decide, by decide, by decide⟩
  have target : IsName (Text.encode (application.name ++ "_AndroidManifest.xml")) :=
    isName_append plain (by decide) (by decide)
  rw [sourceFile, child, ofString, placeFrom_join source, Settings.manifestFile, child, ofString,
    placeFrom_join target]
  intro same
  have lengths := congrArg List.length (List.cons.inj same).1
  rw [Text.encode_append, List.length_append,
    show (Text.encode "_AndroidManifest.xml").length = (Text.encode "AndroidManifest.xml").length + 1
      from by decide] at lengths
  omega

/-- **What is copied as a manifest has content**, since its source has. -/
theorem hasContent_of_copyManifest (made : Application.ofPackage? package = some application)
    {path : FilePath} (ran : (copyManifest settings application).run progress = (.ok path, reached)) :
    path = settings.manifestFile application.name ∧ reached.tree.hasContent path = true := by
  obtain ⟨⟨⟩, between, required, later⟩ := Trial.run_bind_eq_ok.mp ran
  obtain ⟨rfl, present⟩ := require_eq_ok required
  obtain ⟨⟨⟩, copied, change, given⟩ := Trial.run_bind_eq_ok.mp later
  obtain ⟨content, had, filled⟩ := hasContent_iff_read.mp present
  have read := read_of_copyInto (sourcePlace_ne_manifestPlace made settings _) had
    (Trial.run_change_eq_ok.mp change).1
  cases given
  exact ⟨rfl, hasContent_iff_read.mpr ⟨content, read, filled⟩⟩

/-- **What is made has content**, whatever the tools have done before it is looked at. -/
theorem hasContent_of_make (made : Application.ofPackage? package = some application)
    {path : FilePath}
    (ran : (make tools settings application family).run progress = (.ok path, reached)) :
    path = settings.artifactFile family application.name ∧ reached.tree.hasContent path = true := by
  have ofManifest (ran : (makeManifest tools settings application).run progress =
      (.ok path, reached)) :
      path = settings.manifestFile application.name ∧ reached.tree.hasContent path = true := by
    obtain ⟨present, between, -, later⟩ := Trial.run_bind_eq_ok.mp ran
    split at later
    · obtain ⟨⟨⟩, decompressed, -, copied⟩ := Trial.run_bind_eq_ok.mp later
      exact hasContent_of_copyManifest made copied
    · exact hasContent_of_copyManifest made later
  cases family with
  | permissions => exact ofManifest ran
  | intents => exact ofManifest ran
  | sensitiveApis =>
    obtain ⟨⟨⟩, removed, -, later⟩ := Trial.run_bind_eq_ok.mp ran
    obtain ⟨⟨⟩, told, -, later⟩ := Trial.run_bind_eq_ok.mp later
    obtain ⟨⟨⟩, called, -, later⟩ := Trial.run_bind_eq_ok.mp later
    obtain ⟨⟨⟩, between, required, given⟩ := Trial.run_bind_eq_ok.mp later
    obtain ⟨rfl, present⟩ := require_eq_ok required
    cases given
    exact ⟨rfl, present⟩

/-! ### What is given back -/

/-- **What is given back has content**: it is reused since it has, or made. -/
theorem hasContent_of_extract (made : Application.ofPackage? package = some application)
    {path : FilePath}
    (ran : (extract tools settings application family).run progress = (.ok path, reached)) :
    path = settings.artifactFile family application.name ∧ reached.tree.hasContent path = true := by
  rw [extract_run] at ran
  split at ran
  · rename_i reused
    cases ran
    exact ⟨rfl, (Bool.and_eq_true_iff.mp reused).1⟩
  · split at ran
    · exact hasContent_of_make made ran
    · cases ran

/-- **What is extracted can be used and is not extracted twice.** Whatever the tools do to the files
and however they end, what is given back is the artifact of the application, and there is a file
there that is not empty. It is then given back again if it does not have to be made again: no tool
is asked, whatever the tools would do now, and no file is changed. Without tools nothing is done but
that, if the artifact is such a file; otherwise it is missing. -/
theorem extract_spec (made : Application.ofPackage? package = some application) (tools : Toolbox)
    (settings : Settings) (family : Family) (progress : Progress) :
    (∀ path reached,
      (extract tools settings application family).run progress = (.ok path, reached) →
        path = settings.artifactFile family application.name ∧
          (∃ place content executable,
            reached.tree.find? path = .ok (place, .file content executable) ∧ content ≠ []) ∧
          ∀ others : Toolbox,
            (extract others { settings with force := false } application family).run reached =
              (.ok path, { reached with told := reached.told ++ [reuse application family] })) ∧
      (settings.extract = false →
        let artifact := settings.artifactFile family application.name
        ((∃ place content executable,
            progress.tree.find? artifact = .ok (place, .file content executable) ∧ content ≠ []) →
          (extract tools settings application family).run progress =
            (.ok artifact, { progress with told := progress.told ++ [reuse application family] })) ∧
          ((¬ ∃ place content executable,
              progress.tree.find? artifact = .ok (place, .file content executable) ∧ content ≠ []) →
            (extract tools settings application family).run progress =
              (.error (.missing artifact), progress))) := by
  refine ⟨fun path reached ran => ?_, fun off => ⟨fun present => ?_, fun missing => ?_⟩⟩
  · obtain ⟨rfl, present⟩ := hasContent_of_extract made ran
    refine ⟨rfl, hasContent_iff.mp present, fun others => ?_⟩
    have same : Settings.artifactFile { settings with force := false } family application.name =
        settings.artifactFile family application.name := by cases family <;> rfl
    rw [← same] at present ⊢
    exact extract_of_reusable others application present (.inr rfl)
  · exact extract_of_reusable tools application (hasContent_iff.mpr present) (.inl off)
  · rw [extract_run, Bool.eq_false_iff.mpr (mt hasContent_iff.mp missing), off]
    rfl

/-- Files with some content, in the folders that they need. -/
def planted (files : List (FilePath × String)) : FileTree :=
  files.foldl (fun tree file =>
    (Step.whole (·.write file.1 (Text.encode file.2)) (tree.createParent file.1).2).2) .empty

/-- The tree with something at a place, if there is a folder for it and none in its place. -/
def laid (tree : FileTree) (made : Location × Entry) : FileTree :=
  match made with
  | ([], _) => tree
  | (name :: folder, entry) =>
    if able : tree.lookup? folder = some .folder ∧ tree.lookup? (name :: folder) ≠ some .folder then
      tree.put folder name entry able.1 able.2
    else tree

/-- A tool that makes files and folders, and complains. -/
def making (made : List (Location × Entry)) : Toolbox := fun _ tree =>
  (.ended true (Text.encode "slow"), made.foldl laid tree)

/-- What an application is decompressed to: a folder with a manifest. -/
def unpacked (manifest : String) : List (Location × Entry) :=
  [([Text.encode "apkd"], .folder), ([Text.encode "a", Text.encode "apkd"], .folder),
    ([Text.encode "AndroidManifest.xml", Text.encode "a", Text.encode "apkd"],
      .file (Text.encode manifest) false)]

/-- The call graph of an application. -/
def drawn (callGraph : String) : List (Location × Entry) :=
  [([Text.encode "a_callgraph.gml", Text.encode "callgraphs"],
    .file (Text.encode callGraph) false)]

/-- A call graph that is made and a manifest that is decompressed and copied, where there is nothing,
are reused when the tools are gone. -/
theorem extract_spec_sample :
    let application : Application := ⟨"a", .ofString "apks/a.apk"⟩
    let callGraph := FilePath.ofString "callgraphs/a_callgraph.gml"
    let manifest := FilePath.ofString "manifests/a_AndroidManifest.xml"
    let gone : Toolbox := fun _ tree => (.notStarted, tree)
    let first := (extract (making (drawn "graph []")) { force := true } application
      .sensitiveApis).run ⟨.empty, []⟩
    let second := (extract (making (unpacked "<manifest/>")) {} application .permissions).run
      ⟨.empty, []⟩
    Application.ofPackage? (.ofString "apks/a.apk") = some application ∧
      (first.1 = .ok callGraph ∧
        (extract gone {} application .sensitiveApis).run first.2 =
          (.ok callGraph,
            { first.2 with told := first.2.told ++ [reuse application .sensitiveApis] })) ∧
      (second.1 = .ok manifest ∧
        second.2.tree.read manifest = .ok (Text.encode "<manifest/>") ∧
        (extract gone {} application .permissions).run second.2 =
          (.ok manifest,
            { second.2 with told := second.2.told ++ [reuse application .permissions] })) ∧
      (extract (making (drawn "graph []")) { extract := false } application .sensitiveApis).run
        ⟨.empty, []⟩ = (.error (.missing callGraph), ⟨.empty, []⟩) := by
  intro application callGraph manifest gone first second
  have made : Application.ofPackage? (.ofString "apks/a.apk") = some application := by
    decide +kernel
  have graphGiven : first.1 = .ok callGraph := Fallible.eq_ok_of_toOption (by decide +kernel)
  have manifestGiven : second.1 = .ok manifest := Fallible.eq_ok_of_toOption (by decide +kernel)
  have graphRan : first = (.ok callGraph, first.2) :=
    graphGiven ▸ (Prod.eta first).symm
  have manifestRan : second = (.ok manifest, second.2) :=
    manifestGiven ▸ (Prod.eta second).symm
  have copied : second.2.tree.read manifest = .ok (Text.encode "<manifest/>") :=
    Fallible.eq_ok_of_toOption (by decide +kernel)
  have missing : ¬ ∃ place content executable, FileTree.empty.find? callGraph =
      .ok (place, .file content executable) ∧ content ≠ [] := by
    rw [← hasContent_iff]
    decide +kernel
  obtain ⟨graphAgain, -⟩ := extract_spec made (making (drawn "graph []")) { force := true }
    .sensitiveApis ⟨.empty, []⟩
  obtain ⟨-, -, graphReused⟩ := graphAgain callGraph first.2 graphRan
  obtain ⟨manifestAgain, -⟩ :=
    extract_spec made (making (unpacked "<manifest/>")) {} .permissions ⟨.empty, []⟩
  obtain ⟨-, -, manifestReused⟩ := manifestAgain manifest second.2 manifestRan
  obtain ⟨-, without⟩ := extract_spec made (making (drawn "graph []")) { extract := false }
    .sensitiveApis ⟨.empty, []⟩
  clear_value first second
  exact ⟨made, ⟨graphGiven, graphReused gone⟩, ⟨manifestGiven, copied, manifestReused gone⟩,
    (without rfl).2 missing⟩

end Artifact

end ApkFeatures
