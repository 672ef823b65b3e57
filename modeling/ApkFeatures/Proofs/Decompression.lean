/-
**An application is decompressed in a folder of its own.**

The folder is removed with all that lies in it before an application is decompressed, so it has to
be one that nothing else lies in. It is, since it has the name of the application in the folder of
all of them, unless this name is made of dots only. The packages `..apk` and `...apk` are the only
ones with such a name.

* `isName_iff` — which names of applications are names in a folder.
* `Spares`, `removeFolder_sparing` — nothing outside of a folder is removed.
* `extractManifest_frame` — what is done for a manifest.
* `extractManifest_keeps` — it removes nothing else.
* `decompressed_own` — the folder of an application is its own, unless its package is dotted.
-/
import ApkFeatures.Artifact
import ApkFeatures.Proofs.Application
import ApkFeatures.Proofs.FileTree.Copying
import ApkFeatures.Proofs.FileTree.Removing

namespace ApkFeatures

open FilePath FileTree

/-! ### Names made of dots -/

namespace FilePath

variable {folder : FilePath} {name stem ending : Bytes}

/-- A name with an ending is cut at a dot. -/
theorem eq_of_cutName (cut : cutName name = (stem, some ending)) :
    name = stem ++ dot :: ending ∧ stem ≠ [] := by
  rw [cutName] at cut
  split at cut
  · cases cut
  · rename_i written
    obtain ⟨rfl, ends⟩ := Prod.mk.inj cut
    cases ends
    refine ⟨?_, written⟩
    -- Read backwards, a name is its ending, then a dot, then its stem.
    have whole := @List.takeWhile_append_dropWhile _ (· ≠ dot) name.reverse
    cases rest : name.reverse.dropWhile (· ≠ dot) with
    | nil =>
      rw [rest, List.append_nil] at whole
      rw [whole] at written
      simp at written
    | cons first others =>
      have isDot : first = dot := by
        have stops := List.head?_dropWhile_not (· ≠ dot) name.reverse
        rw [rest] at stops
        simpa using stops
      subst isDot
      rw [rest] at whole
      generalize name.reverse.takeWhile (· ≠ dot) = ending at whole ⊢
      have parts : name = others.reverse ++ dot :: ending.reverse := by
        rw [← List.reverse_reverse name, ← whole]
        simp
      have length : name.length - ending.reverse.length - 1 = others.reverse.length := by
        rw [parts]
        simp
        omega
      rw [length]
      conv_lhs => rw [parts]
      rw [parts, List.take_left]

end FilePath

namespace Application

variable {package : FilePath} {application : Application}

/-- The package has no name before its ending other than dots. -/
def IsDotted (package : FilePath) : Prop :=
  package.fileName? = some (Text.encode "..apk") ∨ package.fileName? = some (Text.encode "...apk")

instance (package : FilePath) : Decidable (IsDotted package) :=
  inferInstanceAs (Decidable (_ ∨ _))

/-- **Only dotted packages are applications whose name is no name in a folder.** -/
theorem isName_iff (made : ofPackage? package = some application) :
    IsName (Text.encode application.name) ↔ ¬ IsDotted package := by
  obtain ⟨name, read, rfl⟩ := Option.map_eq_some_iff.mp made
  obtain ⟨bytes, named, decoded⟩ := Option.bind_eq_some_iff.mp read
  rw [show Text.encode _ = bytes from Text.encode_of_decode? decoded]
  obtain ⟨unslashed, -⟩ := nameBytes?_spec named
  rw [nameBytes?] at named
  split at named
  · rename_i ends
    obtain ⟨file, given, cut⟩ := Option.bind_eq_some_iff.mp ends
    rw [stem?, given, Option.map_some, Option.some.injEq] at named
    obtain ⟨whole, written⟩ := eq_of_cutName (Prod.ext named cut)
    have dotted : IsDotted package ↔ bytes = [dot] ∨ bytes = [dot, dot] := by
      rw [IsDotted, given, Option.some.injEq, Option.some.injEq, whole,
        show Text.encode "..apk" = [dot] ++ dot :: Text.encode "apk" by decide,
        show Text.encode "...apk" = [dot, dot] ++ dot :: Text.encode "apk" by decide,
        List.append_cancel_right_eq, List.append_cancel_right_eq]
    rw [dotted, not_or]
    constructor
    · exact fun isName => ⟨fun same => absurd isName.solid (same ▸ by decide), isName.inner⟩
    · rintro ⟨notDot, inner⟩
      exact ⟨unslashed, by simp [isFiller, written, notDot], inner⟩
  · rename_i other
    refine iff_of_true (isName_of_fileName? named) ?_
    rintro (dots | dots) <;> exact other (by rw [ending?, dots]; decide)

end Application

/-! ### What is not removed -/

namespace FileTree

variable {tree before between after : FileTree} {own base : Location} {folder path : FilePath}
  {name content : Bytes}

/-- Nothing outside of a folder is removed. -/
structure Spares (own : Location) (before after : FileTree) : Prop where
  /-- A folder stays one. -/
  folder : ∀ {place}, ¬ own <:+ place → before.lookup? place = some .folder →
    after.lookup? place = some .folder
  /-- A file stays one, perhaps with another content. -/
  file : ∀ {place}, ¬ own <:+ place → before.HoldsFile place → after.HoldsFile place

namespace Spares

theorem refl (own : Location) (tree : FileTree) : Spares own tree tree := ⟨fun _ => id, fun _ => id⟩

theorem trans (first : Spares own before between) (second : Spares own between after) :
    Spares own before after :=
  ⟨fun outside found => second.folder outside (first.folder outside found),
    fun outside holds => second.file outside (first.file outside holds)⟩

/-- What is found as it was has not been removed. -/
theorem of_lookup? (same : ∀ {place}, ¬ own <:+ place → after.lookup? place = before.lookup? place) :
    Spares own before after where
  folder outside found := (same outside).trans found
  file := by
    rintro place outside ⟨content, executable, found⟩
    exact ⟨content, executable, (same outside).trans found⟩

end Spares

/-- Making folders removes nothing. -/
theorem OnlyWrites.spares (only : OnlyWrites [] before after) (own : Location) :
    Spares own before after where
  folder _ found := only.folder found
  file := by
    rintro place - ⟨content, executable, found⟩
    exact ⟨content, executable, (only.file List.not_mem_nil).mpr found⟩

/-- From wherever paths start at a location, nothing outside of a folder is removed. -/
def Sparing (base own : Location) (before after : FileTree) : Prop :=
  before.workingFolder = base → after.workingFolder = base ∧ Spares own before after

instance (base own : Location) : IsFrame (Sparing base own) where
  refl tree := fun started => ⟨started, .refl own tree⟩
  trans first second := fun started =>
    have earlier := first started
    have later := second earlier.1
    ⟨later.1, earlier.2.trans later.2⟩

theorem putFile_sparing {executable? : Option Bool}
    (written : tree.putFile path content executable? = .ok after) :
    Sparing base own tree after := by
  obtain ⟨slot, -, notFolder, start, executable, lookup⟩ := putFile_eq_ok written
  refine fun started => ⟨start.trans started, fun {place} _ found => ?_, fun {place} _ holds => ?_⟩
  · have elsewhere : place ≠ slot.place := fun here => notFolder (here ▸ found)
    rwa [lookup, if_neg elsewhere]
  · by_cases here : place = slot.place
    · exact ⟨content, executable, by rw [lookup, if_pos here]⟩
    · rwa [HoldsFile, lookup, if_neg here]

theorem copyInto_sparing (tree : FileTree) (source target : FilePath) :
    Sparing base own tree (tree.copyInto source target).2 :=
  @copyInto_frame target (Sparing base own) _ putFile_sparing (fun tree started =>
    have only := createParent_onlyWrites tree target
    ⟨only.workingFolder.trans started, only.spares own⟩) tree source

/-- **Removing a folder removes nothing outside of it.** -/
theorem removeFolder_sparing (tree : FileTree) (path : FilePath) :
    Sparing base (path.placeFrom base) tree (tree.removeFolder path).2 := by
  rintro rfl
  obtain ⟨started, outside⟩ := removeFolder_outside tree path
  exact ⟨started, .of_lookup? fun {place} apart => outside place apart⟩

end FileTree

/-! ### The folder of an application -/

namespace Artifact

variable {tools : Toolbox} {settings : Settings} {application : Application} {base own : Location}
  {package : FilePath}

/-- The tool that decompresses an application removes nothing outside of the folder it is given. -/
def StaysInside (tools : Toolbox) (settings : Settings) (application : Application)
    (base own : Location) : Prop :=
  ∀ tree : FileTree, tree.workingFolder = base →
    Spares own tree (tools (decompression settings application) tree).2

theorem isReusable_keeps {relation : FileTree → FileTree → Prop} [IsFrame relation]
    (settings : Settings) (artifact : FilePath) :
    Trial.Keeps relation (isReusable settings artifact) := by
  refine (Trial.Keeps.of (.of_tree fun _ => rfl)).bind fun present => ?_
  cases settings.extract <;> cases present <;> first | exact .pure _ | exact .throw _

theorem require_keeps {relation : FileTree → FileTree → Prop} [IsFrame relation]
    (artifact : FilePath) : Trial.Keeps relation (require artifact) := by
  refine (Trial.Keeps.of (.of_tree fun _ => rfl)).bind fun present => ?_
  cases present
  · exact .throw _
  · exact .pure ()

theorem run_keeps {command : Command}
    (stays : ∀ tree : FileTree, tree.workingFolder = base → Spares own tree (tools command tree).2) :
    Step.Keeps (Sparing base own) (command.run tools) := by
  refine .change fun tree started => ?_
  by_cases allowed : command.isAllowed = true
  · rw [if_pos allowed]
    have spares := stays tree started
    exact ⟨started, fun outside found => spares.folder outside found,
      fun outside holds => spares.file outside holds⟩
  · rw [if_neg allowed]
    exact ⟨started, .refl own tree⟩

theorem call_keeps {relation : FileTree → FileTree → Prop} [IsFrame relation] {command : Command}
    (tool : Tool) (runs : Step.Keeps relation (command.run tools)) :
    Trial.Keeps relation (tool.call tools command) := by
  refine .bind (.of (.of_tree fun _ => rfl)) fun _ => (Trial.Keeps.of runs).bind ?_
  rintro (_ | ⟨_ | _, complaint⟩)
  · exact .throw _
  · exact .throw _
  · exact .pure ()

/-- **For a manifest nothing is done** but that the folder of the application is removed, its tool is
run, and the manifest is copied. -/
theorem extractManifest_frame {relation : FileTree → FileTree → Prop} [IsFrame relation]
    (removes : ∀ tree : FileTree,
      relation tree (tree.removeFolder (settings.decompressed application.name)).2)
    (runs : Step.Keeps relation ((decompression settings application).run tools))
    (copied : ∀ (tree : FileTree) (source : FilePath),
      relation tree (tree.copyInto source (settings.manifestFile application.name)).2) :
    Trial.Keeps relation (extractManifest tools settings application) := by
  have calls : Trial.Keeps relation (do
      Trial.tell .artifacts .info ("decompressing " ++ application.name)
      Tool.apktool.call tools (decompression settings application)) :=
    .bind (.of (.of_tree fun _ => rfl)) fun _ => call_keeps .apktool runs
  have decompresses : Trial.Keeps relation (decompress tools settings application) := by
    refine .bind (.of (.of_tree fun _ => rfl)) fun there => ?_
    cases there
    · exact calls
    · refine .bind (.of (.change removes)) ?_
      rintro (fault | done)
      · exact .bind (.of (.of_tree fun _ => rfl)) fun _ => calls
      · exact calls
  have copies : Trial.Keeps relation (do
      require ((settings.decompressed application.name).child "AndroidManifest.xml")
      Trial.change (some (.copyManifest (settings.manifestFile application.name)))
        (·.copyInto ((settings.decompressed application.name).child "AndroidManifest.xml")
          (settings.manifestFile application.name))
      return settings.manifestFile application.name) :=
    .bind (require_keeps _) fun _ => .bind (.change _ fun tree => copied tree _) fun _ => .pure _
  refine .bind (isReusable_keeps settings _) fun reusable => ?_
  cases reusable
  · refine .bind (.of (.of_tree fun _ => rfl)) fun present => ?_
    split
    · exact .bind decompresses fun _ => copies
    · exact copies
  · exact .bind (.of (.of_tree fun _ => rfl)) fun _ => .pure _

/-- **For a manifest nothing is removed outside of the folder of the application.** -/
theorem extractManifest_keeps
    (stays : StaysInside tools settings application base
      ((settings.decompressed application.name).placeFrom base)) :
    Trial.Keeps (Sparing base ((settings.decompressed application.name).placeFrom base))
      (extractManifest tools settings application) :=
  extractManifest_frame (fun tree => removeFolder_sparing tree _) (run_keeps stays) fun tree source =>
    copyInto_sparing tree source _

/-- Two names in a folder are beside each other. -/
theorem not_suffix_of_ne {first second : Bytes} (different : first ≠ second) (above : Location) :
    ¬ (first :: above) <:+ (second :: above) := fun inside =>
  different (List.cons.inj (inside.eq_of_length rfl)).1

/-- **The folder into which an application is decompressed is its own just if its package has a name
other than dots.** Then the folder is found under the name of the application in the folder of all of
them, nothing outside of it is removed for the manifest, and no other application is decompressed in
it. -/
theorem decompressed_own (made : Application.ofPackage? package = some application)
    (settings : Settings) :
    ((settings.decompressed application.name).components =
          settings.decompressedFolder.components ++ [.name (Text.encode application.name)] ↔
        ¬ Application.IsDotted package) ∧
      (¬ Application.IsDotted package → ∀ base : Location,
        let own := (settings.decompressed application.name).placeFrom base
        own = Text.encode application.name :: settings.decompressedFolder.placeFrom base ∧
          (∀ tools, StaysInside tools settings application base own →
            ∀ progress : Progress, progress.tree.workingFolder = base →
              Spares own progress.tree
                ((extractManifest tools settings application).run progress).2.tree) ∧
          ∀ otherPackage other, Application.ofPackage? otherPackage = some other →
            ¬ Application.IsDotted otherPackage → other.name ≠ application.name →
              ¬ own <:+ (settings.decompressed other.name).placeFrom base ∧
                ¬ (settings.decompressed other.name).placeFrom base <:+ own) := by
  have place {package : FilePath} {application : Application}
      (made : Application.ofPackage? package = some application)
      (plain : ¬ Application.IsDotted package) (base : Location) :
      (settings.decompressed application.name).placeFrom base =
        Text.encode application.name :: settings.decompressedFolder.placeFrom base :=
    placeFrom_join ((Application.isName_iff made).mpr plain) base
  refine ⟨⟨fun child => ?_, fun plain => ?_⟩, fun plain base => ⟨place made plain base, ?_, ?_⟩⟩
  · refine (Application.isName_iff made).mp
      (@Application.isName_of_fileName? (settings.decompressed application.name) _ ?_)
    rw [fileName?, child, List.getLast?_concat]
  · exact components_join ((Application.isName_iff made).mpr plain)
  · intro tools stays progress started
    exact (extractManifest_keeps stays progress started).2
  · intro otherPackage other otherMade otherPlain different
    have apart : Text.encode other.name ≠ Text.encode application.name :=
      fun same => different (Text.encode_inj.mp same)
    rw [place made plain, place otherMade otherPlain]
    exact ⟨not_suffix_of_ne apart.symm _, not_suffix_of_ne apart _⟩

/-! ### Beside the folder of all -/

/-- A file beside the folder of all decompressed applications. -/
def besideAll : FileTree :=
  let work := FileTree.empty.put [] (Text.encode "work") .folder folder_root (by decide)
  let note := work.put [Text.encode "work"] (Text.encode "notes.txt") (.file [] false) (by decide)
    (by decide)
  note.put [Text.encode "work"] (Text.encode "apkd") .folder (by decide) (by decide)

/-- Applications are decompressed in a folder of the work. -/
def inWork : Settings := { decompressedFolder := .ofString "work/apkd" }

/-- A tool that finds a manifest in every package. -/
def unpacking (folder : FilePath) : Toolbox := fun _ tree =>
  let manifest := folder.child "AndroidManifest.xml"
  (.ended true [], (Step.whole (·.write manifest (Text.encode "<manifest/>"))
    (tree.createParent manifest).2).2)

theorem unpacking_staysInside (folder : FilePath) (base own : Location) :
    StaysInside (unpacking folder) settings application base own := by
  intro tree started
  have only := createParent_onlyWrites tree (folder.child "AndroidManifest.xml")
  refine (only.spares own).trans ?_
  rw [unpacking, Step.whole]
  split
  · rename_i after written
    exact (putFile_sparing written (only.workingFolder.trans started)).2
  · exact .refl own _

/-- A package like any other, and one of its neighbours. -/
theorem decompressed_own_sample :
    Application.ofPackage? (.ofString "apks/a.apk") = some ⟨"a", .ofString "apks/a.apk"⟩ ∧
      ¬ Application.IsDotted (.ofString "apks/a.apk") ∧
      let own := (inWork.decompressed "a").placeFrom []
      let tools := unpacking (inWork.decompressed "a")
      let after := ((extractManifest tools inWork ⟨"a", .ofString "apks/a.apk"⟩).run
        ⟨besideAll, []⟩).2.tree
      StaysInside tools inWork ⟨"a", .ofString "apks/a.apk"⟩ [] own ∧
        (inWork.decompressed "a").components =
          inWork.decompressedFolder.components ++ [.name (Text.encode "a")] ∧
        Spares own besideAll after ∧
        ¬ own <:+ (inWork.decompressed "..a").placeFrom [] := by
  have made : Application.ofPackage? (.ofString "apks/a.apk") =
      some ⟨"a", .ofString "apks/a.apk"⟩ := by decide +kernel
  have otherMade : Application.ofPackage? (.ofString "apks/..a.apk") =
      some ⟨"..a", .ofString "apks/..a.apk"⟩ := by decide +kernel
  have plain : ¬ Application.IsDotted (.ofString "apks/a.apk") := by decide +kernel
  have otherPlain : ¬ Application.IsDotted (.ofString "apks/..a.apk") := by decide +kernel
  have stays := @unpacking_staysInside inWork ⟨"a", .ofString "apks/a.apk"⟩
    (inWork.decompressed "a") [] ((inWork.decompressed "a").placeFrom [])
  obtain ⟨child, owns⟩ := decompressed_own made inWork
  obtain ⟨-, spares, apart⟩ := owns plain []
  exact ⟨made, plain, stays, child.mpr plain, spares _ stays ⟨besideAll, []⟩ rfl,
    (apart _ _ otherMade otherPlain (by decide)).1⟩

/-- For a dotted package, what lies beside the folder of all decompressed applications is removed,
even if the tool does nothing. -/
theorem extractManifest_dotted :
    Application.ofPackage? (.ofString "apks/...apk") = some ⟨"..", .ofString "apks/...apk"⟩ ∧
      StaysInside (fun _ tree => (.notStarted, tree)) inWork ⟨"..", .ofString "apks/...apk"⟩ []
        (inWork.decompressedFolder.placeFrom []) ∧
      let after := ((extractManifest (fun _ tree => (.notStarted, tree)) inWork
        ⟨"..", .ofString "apks/...apk"⟩).run ⟨besideAll, []⟩).2.tree
      besideAll.lookup? [Text.encode "notes.txt", Text.encode "work"] = some (.file [] false) ∧
        ¬ inWork.decompressedFolder.placeFrom [] <:+
          [Text.encode "notes.txt", Text.encode "work"] ∧
        after.lookup? [Text.encode "notes.txt", Text.encode "work"] = none :=
  ⟨by decide +kernel, fun tree _ => .refl _ tree, by decide, by decide, by decide +kernel⟩

end Artifact

end ApkFeatures
