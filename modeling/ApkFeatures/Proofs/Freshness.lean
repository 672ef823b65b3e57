/-
**Nothing old is taken for new.**

An artifact that has to be made again is made by a tool, which may end with success and write
nothing. What an earlier run has left is not taken for what the tool should have made: a call graph is
removed before the tool is run, and of a manifest only what has been decompressed is looked at, into a
folder that is removed before. So from trees that differ in nothing but what an earlier run has left,
the same is given, with the same content, as long as the tool does the same in both.

* `MayHoldFile`, `MayHoldFolder` — what an earlier run may have left at a path.
* `discardFile`, `discardFolder` — what is found after it has been removed.
* `AfterCallGraph`, `AfterManifest` — trees that differ in what has been left of an application.
* `removeCallGraph_agree`, `decompress_agree` — nothing of it is left when the tool is called.
* `copyManifest_agree` — an old manifest does not matter to the copy.
* `extract_agree` — what is given does not depend on what has been left.
-/
import ApkFeatures.Proofs.Agreement
import ApkFeatures.Proofs.Extraction
import ApkFeatures.Proofs.FileTree.Likeness

namespace ApkFeatures

open FilePath FileTree

/-! ### What may be left -/

namespace FileTree

variable {tree : FileTree} {path : FilePath}

/-- There is nothing at the place of a path, or a file that it leads to. -/
def MayHoldFile (tree : FileTree) (path : FilePath) : Prop :=
  tree.lookup? (path.placeFrom tree.workingFolder) = none ∨ tree.isFile path = true

/-- There is nothing at the place of a path, or a folder that it leads to. -/
def MayHoldFolder (tree : FileTree) (path : FilePath) : Prop :=
  tree.lookup? (path.placeFrom tree.workingFolder) = none ∨ tree.isFolder path = true

/-- The folder at a path can be removed, if there is one. -/
def CanRemove (tree : FileTree) (path : FilePath) : Prop :=
  tree.isFolder path = true → (tree.removeFolder path).1 = .ok ()

theorem contains_eq_false (nothing : tree.lookup? (path.placeFrom tree.workingFolder) = none) :
    tree.contains path = false := by
  refine Bool.eq_false_iff.mpr fun present => ?_
  obtain ⟨place, entry, found⟩ := contains_iff.mp present
  obtain ⟨located, there⟩ := find?_eq_ok_iff.mp found
  rw [← locate_place located, there] at nothing
  cases nothing

/-- A file that may be left holds no folder. -/
theorem MayHoldFile.not_folder (old : tree.MayHoldFile path) :
    tree.lookup? (path.placeFrom tree.workingFolder) ≠ some .folder := by
  rcases old with nothing | file
  · rw [nothing]
    simp
  · obtain ⟨place, content, executable, found⟩ := isFile_iff.mp file
    obtain ⟨located, there⟩ := find?_eq_ok_iff.mp found
    rw [← locate_place located, there]
    simp

/-! ### Removing what is left -/

/-- The file at a path, removed if there is something. -/
def discardFile (tree : FileTree) (path : FilePath) : Except Fault Unit × FileTree :=
  if tree.contains path then Step.whole (·.removeFile path) tree else (.ok (), tree)

/-- The folder at a path, removed if there is something. -/
def discardFolder (tree : FileTree) (path : FilePath) : FileTree :=
  if tree.contains path then (tree.removeFolder path).2 else tree

/-- **A file that may be left is gone**, and everything else is found where it was. -/
theorem discardFile_of_mayHold (old : tree.MayHoldFile path) :
    ∃ after, tree.discardFile path = (.ok (), after) ∧
      after.workingFolder = tree.workingFolder ∧ ∀ place, after.lookup? place =
        if place = path.placeFrom tree.workingFolder then none else tree.lookup? place := by
  rcases old with nothing | file
  · refine ⟨tree, ?_, rfl, fun place => ?_⟩
    · rw [discardFile, contains_eq_false nothing]
      rfl
    · split
      · rename_i here
        rw [here, nothing]
      · rfl
  · obtain ⟨place, content, executable, found⟩ := isFile_iff.mp file
    have removed : tree.removeFile path = .ok (tree.erase place) :=
      Fallible.bind_eq_ok_iff.mpr ⟨_, found, rfl⟩
    refine ⟨tree.erase place, ?_, removeFile_eq_ok removed⟩
    rw [discardFile, contains_iff.mpr ⟨_, _, found⟩, if_pos rfl, Step.whole, removed]

/-- **A folder that may be left is gone** with all that lies in it, and everything else is found where
it was. -/
theorem discardFolder_of_mayHold (old : tree.MayHoldFolder path) (can : tree.CanRemove path) :
    (tree.discardFolder path).workingFolder = tree.workingFolder ∧
      ∀ place, (tree.discardFolder path).lookup? place =
        if path.placeFrom tree.workingFolder <:+ place then none else tree.lookup? place := by
  rcases old with nothing | folder
  · rw [discardFolder, contains_eq_false nothing, if_neg Bool.false_ne_true]
    refine ⟨rfl, fun place => ?_⟩
    split
    · rename_i within
      cases found : tree.lookup? place with
      | none => rfl
      | some entry =>
        by_cases here : path.placeFrom tree.workingFolder = place
        · rw [here, found] at nothing
          cases nothing
        · cases nothing.symm.trans (folder_of_suffix within here found)
    · rfl
  · obtain ⟨place, found⟩ := isFolder_iff.mp folder
    rw [discardFolder, contains_iff.mpr ⟨_, _, found⟩, if_pos rfl]
    exact removeFolder_eq_ok (Prod.ext (can folder) rfl)

end FileTree

/-! ### Trees after different runs -/

variable {tools : Toolbox} {settings : Settings} {application : Application} {package : FilePath}
  {progress : Progress} {one other : FileTree} {related : FileTree → FileTree → Prop}

/-- Two trees differ only in the call graph that an earlier run may have left of an application. -/
structure AfterCallGraph (settings : Settings) (name : String) (one other : FileTree) : Prop where
  /-- Relative paths start at the same place. -/
  start : other.workingFolder = one.workingFolder
  /-- Everywhere else the same is found. -/
  same : ∀ place, place ≠ (settings.callGraphFile name).placeFrom one.workingFolder →
    other.lookup? place = one.lookup? place
  /-- In both trees there is nothing, or an old file. -/
  old : one.MayHoldFile (settings.callGraphFile name) ∧
    other.MayHoldFile (settings.callGraphFile name)

/-- Two trees differ only in the manifest that an earlier run may have left of an application, and in
what it may have decompressed. -/
structure AfterManifest (settings : Settings) (name : String) (one other : FileTree) : Prop where
  /-- Relative paths start at the same place. -/
  start : other.workingFolder = one.workingFolder
  /-- Everywhere else the same is found. -/
  same : ∀ place, place ≠ (settings.manifestFile name).placeFrom one.workingFolder →
    ¬ (settings.decompressed name).placeFrom one.workingFolder <:+ place →
      other.lookup? place = one.lookup? place
  /-- In both trees there is no manifest, or an old file. -/
  old : one.MayHoldFile (settings.manifestFile name) ∧
    other.MayHoldFile (settings.manifestFile name)
  /-- In both trees nothing is decompressed, or there is an old folder. -/
  oldFolder : one.MayHoldFolder (settings.decompressed name) ∧
    other.MayHoldFolder (settings.decompressed name)

theorem AfterCallGraph.sameButAt {name : String} (after : AfterCallGraph settings name one other) :
    SameButAt (settings.callGraphFile name) one other where
  start := after.start
  found := fun place => by
    by_cases here : place = (settings.callGraphFile name).placeFrom one.workingFolder
    · refine .inr ⟨here, ?_⟩
      rw [here]
      exact ⟨after.old.1.not_folder, after.start ▸ after.old.2.not_folder⟩
    · exact .inl (after.same place here)

/-- What is left after different runs differs in the manifest only, once the folders are removed. -/
theorem AfterManifest.discarded (after : AfterManifest settings application.name one other)
    (can : one.CanRemove (settings.decompressed application.name))
    (can' : other.CanRemove (settings.decompressed application.name)) :
    SameButAt (settings.manifestFile application.name)
      (one.discardFolder (settings.decompressed application.name))
      (other.discardFolder (settings.decompressed application.name)) := by
  obtain ⟨started, found⟩ := discardFolder_of_mayHold after.oldFolder.1 can
  obtain ⟨started', found'⟩ := discardFolder_of_mayHold after.oldFolder.2 can'
  refine ⟨started'.trans (after.start.trans started.symm), fun place => ?_⟩
  rw [found, found', started, after.start]
  by_cases within : (settings.decompressed application.name).placeFrom one.workingFolder <:+ place
  · rw [if_pos within, if_pos within]
    exact .inl rfl
  · rw [if_neg within, if_neg within]
    by_cases here : place = (settings.manifestFile application.name).placeFrom one.workingFolder
    · refine .inr ⟨here, ?_⟩
      rw [here]
      exact ⟨after.old.1.not_folder, after.start ▸ after.old.2.not_folder⟩
    · exact .inl (after.same place here within)

/-- A tool that does the same in related trees is called with the same result. -/
theorem Tool.call_agree (tool : Tool) {command : Command}
    (agree : Step.Agree related (command.run tools) (command.run tools) fun _ => related) :
    Step.Agree related (tool.call tools command).run (tool.call tools command).run
      fun _ => related := by
  refine Trial.agree_of_bind (.tell _ _ _ _) fun _ => Trial.agree_of_bind agree fun ending => ?_
  rcases ending with _ | ⟨_ | _, complaint⟩
  · exact .pure _
  · exact .pure _
  · exact .pure _

namespace Artifact

theorem require_agree {path : FilePath}
    (same : ∀ one other, related one other → one.hasContent path = other.hasContent path) :
    Step.Agree related (require path).run (require path).run fun _ => related := by
  intro one other start
  rw [require_run, require_run, same _ _ start]
  exact ⟨rfl, start⟩

/-! ### The call graph -/

/-- The folder of the call graphs is made, and an old call graph is removed from it. -/
def discardCallGraph (settings : Settings) (name : String) (tree : FileTree) :
    Except FileTree.Fault Unit × FileTree :=
  match tree.createFolders settings.callGraphsFolder with
  | (.ok (), made) => made.discardFile (settings.callGraphFile name)
  | failed => failed

theorem removeCallGraph_run (settings : Settings) (application : Application)
    (progress : Progress) :
    (removeCallGraph settings application).run progress =
      (Trial.change none (discardCallGraph settings application.name)).run progress := by
  rw [removeCallGraph, Trial.run_bind, Trial.run_change, Trial.run_change, discardCallGraph]
  rcases progress.tree.createFolders settings.callGraphsFolder with ⟨fault | done, made⟩
  · rfl
  · rw [Trial.run_settle_ok]
    dsimp only
    rw [Trial.run_of_bind, Step.ask_apply, discardFile]
    dsimp only
    cases made.contains (settings.callGraphFile application.name) with
    | true => exact Trial.run_change ..
    | false => rfl

theorem discardCallGraph_same (settings : Settings) (name : String) (same : SameEntries one other) :
    (discardCallGraph settings name other).1 = (discardCallGraph settings name one).1 ∧
      SameEntries (discardCallGraph settings name one).2 (discardCallGraph settings name other).2 := by
  obtain ⟨equal, alike⟩ := same.createFolders settings.callGraphsFolder
  rcases created : one.createFolders settings.callGraphsFolder with ⟨result, made⟩
  rcases created' : other.createFolders settings.callGraphsFolder with ⟨result', made'⟩
  rw [created, created'] at equal alike
  rw [discardCallGraph, discardCallGraph, created, created']
  cases equal
  cases result with
  | error fault => exact ⟨rfl, alike⟩
  | ok done =>
    dsimp only at alike ⊢
    rw [discardFile, discardFile, alike.contains]
    cases made.contains (settings.callGraphFile name) with
    | false => exact ⟨rfl, alike⟩
    | true =>
      rw [if_pos rfl, if_pos rfl, Step.whole, Step.whole]
      rcases alike.removeFile (settings.callGraphFile name) with
        ⟨fault, refused, refused'⟩ | ⟨removed, removed', done, done', left⟩
      · rw [refused, refused']
        exact ⟨rfl, alike⟩
      · rw [done, done']
        exact ⟨rfl, left⟩

/-- Where the path of the call graph leads somewhere, nothing is done but to remove it. -/
theorem discardCallGraph_of_locate {tree : FileTree} {place : Location} {name : String}
    (plain : IsPlain name) (located : tree.locate (settings.callGraphFile name) = .ok place)
    (old : tree.MayHoldFile (settings.callGraphFile name)) :
    ∃ after, discardCallGraph settings name tree = (.ok (), after) ∧
      after.workingFolder = tree.workingFolder ∧ ∀ place, after.lookup? place =
        if place = (settings.callGraphFile name).placeFrom tree.workingFolder then none
        else tree.lookup? place := by
  have named : IsName (Text.encode (name ++ "_callgraph.gml")) :=
    isName_append plain (by decide) (by decide)
  obtain ⟨folder, reached, -⟩ := (locate_join_iff named).mp located
  rw [discardCallGraph, createFolders_of_reaches named reached]
  exact discardFile_of_mayHold old

/-- **Nothing is left of an old call graph when the tool is called.** -/
theorem removeCallGraph_agree (plain : IsPlain application.name) :
    Step.Agree (AfterCallGraph settings application.name) (removeCallGraph settings application).run
      (removeCallGraph settings application).run fun _ => SameEntries := by
  intro first second after
  rw [removeCallGraph_run, removeCallGraph_run]
  refine Trial.agree_change none (fun one other after => ?_) first second after
  have alike := after.sameButAt
  by_cases located : ∃ place, one.locate (settings.callGraphFile application.name) = .ok place
  · obtain ⟨place, located⟩ := located
    obtain ⟨left, done, started, found⟩ := discardCallGraph_of_locate plain located after.old.1
    obtain ⟨left', done', started', found'⟩ :=
      discardCallGraph_of_locate plain (SameBut.locate alike located) after.old.2
    rw [done, done']
    refine ⟨rfl, started'.trans (after.start.trans started.symm), fun place => .inl ?_⟩
    rw [found, found', after.start]
    split
    · rfl
    · rename_i elsewhere
      exact after.same place elsewhere
  · -- The path leads nowhere in either tree, so there is nothing at its place.
    have nothing {tree : FileTree} (old : tree.MayHoldFile (settings.callGraphFile application.name))
        (lost : ¬ ∃ place, tree.locate (settings.callGraphFile application.name) = .ok place) :
        tree.lookup? ((settings.callGraphFile application.name).placeFrom tree.workingFolder) =
          none := by
      refine old.resolve_right fun file => lost ?_
      obtain ⟨place, content, executable, found⟩ := isFile_iff.mp file
      exact ⟨place, (find?_eq_ok_iff.mp found).1⟩
    have empty := nothing after.old.1 located
    have empty' := nothing after.old.2 fun ⟨place, located'⟩ =>
      located ⟨place, SameBut.locate (SameBut.symm alike) located'⟩
    refine discardCallGraph_same settings _ ⟨after.start, fun place => .inl ?_⟩
    by_cases here : place = (settings.callGraphFile application.name).placeFrom one.workingFolder
    · rw [here, empty, ← after.start, empty']
    · exact after.same place here

/-- **What is made as a call graph does not depend on an old one.** -/
theorem makeCallGraph_agree (plain : IsPlain application.name)
    (agree : Step.Agree SameEntries ((callGraphing settings application).run tools)
      ((callGraphing settings application).run tools) fun _ => SameEntries) :
    Step.Agree (AfterCallGraph settings application.name)
      (makeCallGraph tools settings application).run
      (makeCallGraph tools settings application).run fun _ => SameEntries := by
  refine Trial.agree_bind (removeCallGraph_agree plain) (fun _ => ?_) id
  refine Trial.agree_of_bind (.tell _ _ _ _) fun _ => ?_
  refine Trial.agree_bind (Tool.call_agree _ agree) (fun _ => ?_) id
  refine Trial.agree_bind (require_agree fun one other same => (same.hasContent _).symm)
    (fun _ => ?_) id
  exact .pure _

/-! ### The manifest -/

/-- If an old folder can be removed, it is, and the tool is called. -/
theorem decompress_run
    (old : progress.tree.MayHoldFolder (settings.decompressed application.name))
    (can : progress.tree.CanRemove (settings.decompressed application.name)) :
    (decompress tools settings application).run progress =
      (Trial.tell .artifacts .info ("decompressing " ++ application.name) >>= fun _ =>
        Tool.apktool.call tools (decompression settings application)).run
        { progress with
          tree := progress.tree.discardFolder (settings.decompressed application.name) } := by
  rw [decompress, Trial.run_of_bind, Step.ask_apply, discardFolder]
  rcases old with nothing | folder
  · dsimp only
    rw [contains_eq_false nothing]
    rfl
  · obtain ⟨place, found⟩ := isFolder_iff.mp folder
    have removed := can folder
    dsimp only
    rw [contains_iff.mpr ⟨_, _, found⟩, if_pos rfl, if_pos rfl]
    refine (Trial.run_of_bind _ _ _).trans ?_
    rw [Step.change_apply, removed]

/-- **Nothing is left of what has been decompressed when the tool is called.** -/
theorem decompress_agree
    (agree : Step.Agree (SameButAt (settings.manifestFile application.name))
      ((decompression settings application).run tools)
      ((decompression settings application).run tools)
      fun _ => SameButAt (settings.manifestFile application.name)) :
    Step.Agree (fun one other => AfterManifest settings application.name one other ∧
        one.CanRemove (settings.decompressed application.name) ∧
        other.CanRemove (settings.decompressed application.name))
      (decompress tools settings application).run (decompress tools settings application).run
      fun _ => SameButAt (settings.manifestFile application.name) := by
  rintro first second ⟨after, can, can'⟩
  rw [decompress_run after.oldFolder.1 can, decompress_run after.oldFolder.2 can']
  exact Trial.agree_of_bind (.tell _ _ _ _) (fun _ => Tool.call_agree _ agree) _ _
    (after.discarded can can')

/-- What is copied, and why not if it is not: whatever refuses it, the same is told. -/
theorem copyManifest_run (settings : Settings) (application : Application) (progress : Progress) :
    (copyManifest settings application).run progress =
      if progress.tree.hasContent (sourceFile settings application) then
        match progress.tree.copyInto (sourceFile settings application)
          (settings.manifestFile application.name) with
        | (.ok (), after) =>
          (.ok (settings.manifestFile application.name), { progress with tree := after })
        | (.error _, after) =>
          (.error (.attempt (.copyManifest (settings.manifestFile application.name))),
            { progress with tree := after })
      else (.error (.missing (sourceFile settings application)), progress) := by
  rw [copyManifest, Trial.run_bind, require_run]
  cases progress.tree.hasContent (sourceFile settings application) with
  | false => rfl
  | true =>
    rw [if_pos rfl, if_pos rfl]
    refine (Trial.run_bind _ _ _).trans ?_
    rw [Trial.run_change]
    rcases progress.tree.copyInto (sourceFile settings application)
      (settings.manifestFile application.name) with ⟨fault | done, after⟩
    · rfl
    · rfl

/-- **An old manifest does not matter to the copy**: from trees that differ there one is made in both
or in neither, with the same content. -/
theorem copyManifest_agree (made : Application.ofPackage? package = some application) :
    Step.Agree (SameButAt (settings.manifestFile application.name))
      (copyManifest settings application).run (copyManifest settings application).run
      fun result one other => ∀ path, result = .ok path →
        ∃ content, one.read path = .ok content ∧ other.read path = .ok content := by
  intro first second same
  have apart := sourcePlace_ne_manifestPlace made settings first.tree.workingFolder
  have apart' := sourcePlace_ne_manifestPlace made settings second.tree.workingFolder
  have alike := SameBut.read same apart
  rw [copyManifest_run, copyManifest_run, ← alike.hasContent]
  by_cases present : first.tree.hasContent (sourceFile settings application) = true
  · obtain ⟨content, had, -⟩ := hasContent_iff_read.mp present
    rw [if_pos present, if_pos present]
    rcases copied : first.tree.copyInto (sourceFile settings application)
      (settings.manifestFile application.name) with ⟨fault | done, after⟩
    · rcases copied' : second.tree.copyInto (sourceFile settings application)
        (settings.manifestFile application.name) with ⟨fault' | done', after'⟩
      · exact ⟨rfl, fun path given => nomatch given⟩
      · obtain ⟨again, reached⟩ := same.symm.copyInto apart' copied'
        cases copied.symm.trans reached
    · obtain ⟨after', copied'⟩ := same.copyInto apart copied
      rw [copied']
      refine ⟨rfl, fun path given => ?_⟩
      cases given
      exact ⟨content, read_of_copyInto apart had copied,
        read_of_copyInto apart' (alike.read had) copied'⟩
  · rw [if_neg present, if_neg present]
    exact ⟨rfl, fun path given => nomatch given⟩

/-- **What is made as a manifest does not depend on an old one**, nor on what has been decompressed
before, if that can be removed. -/
theorem makeManifest_agree (made : Application.ofPackage? package = some application)
    (forced : settings.force = true)
    (agree : Step.Agree (SameButAt (settings.manifestFile application.name))
      ((decompression settings application).run tools)
      ((decompression settings application).run tools)
      fun _ => SameButAt (settings.manifestFile application.name)) :
    Step.Agree (fun one other => AfterManifest settings application.name one other ∧
        one.CanRemove (settings.decompressed application.name) ∧
        other.CanRemove (settings.decompressed application.name))
      (makeManifest tools settings application).run (makeManifest tools settings application).run
      fun result one other => ∀ path, result = .ok path →
        ∃ content, one.read path = .ok content ∧ other.read path = .ok content := by
  have run (progress : Progress) : (makeManifest tools settings application).run progress =
      (decompress tools settings application >>= fun _ =>
        copyManifest settings application).run progress := by
    rw [makeManifest, Trial.run_of_bind, forced]
    rfl
  intro first second after
  rw [run, run]
  exact Trial.agree_bind (decompress_agree agree) (fun _ => copyManifest_agree made)
    (fun _ path given => nomatch given) first second after

/-! ### What is given -/

/-- **Nothing old is taken for new.** An artifact is made again from two trees that differ only in
what an earlier run has left of it: an old call graph, or an old manifest and a folder with whatever
has been decompressed. If the tool does not depend on what has been left, the same is given, or both
fail in the same way. A call graph then leaves the same files everywhere. For a manifest it is enough
that the old folder can be removed, and what is given holds the same content. -/
theorem extract_agree (made : Application.ofPackage? package = some application) (tools : Toolbox)
    (tooled : settings.extract = true) (forced : settings.force = true) :
    (Step.Agree SameEntries ((callGraphing settings application).run tools)
        ((callGraphing settings application).run tools) (fun _ => SameEntries) →
      Step.Agree (AfterCallGraph settings application.name)
        (extractCallGraph tools settings application).run
        (extractCallGraph tools settings application).run fun _ => SameEntries) ∧
      (Step.Agree (SameButAt (settings.manifestFile application.name))
          ((decompression settings application).run tools)
          ((decompression settings application).run tools)
          (fun _ => SameButAt (settings.manifestFile application.name)) →
        Step.Agree (fun one other => AfterManifest settings application.name one other ∧
            one.CanRemove (settings.decompressed application.name) ∧
            other.CanRemove (settings.decompressed application.name))
          (extractManifest tools settings application).run
          (extractManifest tools settings application).run
          fun result one other => ∀ path, result = .ok path →
            ∃ content, one.read path = .ok content ∧ other.read path = .ok content) := by
  refine ⟨fun agree first second after => ?_, fun agree first second after => ?_⟩
  · have run := extract_of_forced tools application .sensitiveApis tooled forced
    rw [show extractCallGraph tools settings application =
      extract tools settings application .sensitiveApis from rfl, run, run]
    exact makeCallGraph_agree (Application.name_of_ofPackage? made).1 agree first second after
  · have run := extract_of_forced tools application .permissions tooled forced
    rw [show extractManifest tools settings application =
      extract tools settings application .permissions from rfl, run, run]
    exact makeManifest_agree made forced agree first second after

/-! ### Tools -/

section Tools

variable {spots : Location → Prop}

/-- A tool that ends with success and does nothing. -/
def silent : Toolbox := fun _ tree => (.ended true [], tree)

theorem silent_agree (command : Command) :
    Step.Agree related (command.run silent) (command.run silent) fun _ => related := by
  intro first second start
  unfold Command.run
  rw [Step.change_apply, Step.change_apply]
  cases command.isAllowed with
  | true => exact ⟨rfl, start⟩
  | false => exact ⟨rfl, start⟩

/-- The same can be put in trees that are the same but for some places. -/
theorem sameBut_laid (same : SameBut spots one other) (made : Location × Entry) :
    SameBut spots (laid one made) (laid other made) := by
  obtain ⟨place, entry⟩ := made
  cases place with
  | nil => exact same
  | cons name folder =>
    by_cases able : one.lookup? folder = some .folder ∧ one.lookup? (name :: folder) ≠ some .folder
    · have able' : other.lookup? folder = some .folder ∧
          other.lookup? (name :: folder) ≠ some .folder :=
        ⟨same.folder able.1, mt same.symm.folder able.2⟩
      simp only [laid, dif_pos able, dif_pos able']
      refine ⟨same.start, fun place => ?_⟩
      rw [lookup?_put, lookup?_put]
      by_cases here : place = name :: folder
      · rw [if_pos here, if_pos here]
        exact .inl rfl
      · rw [if_neg here, if_neg here]
        exact same.found place
    · have unable : ¬ (other.lookup? folder = some .folder ∧
          other.lookup? (name :: folder) ≠ some .folder) := fun able' =>
        able ⟨same.symm.folder able'.1, mt same.folder able'.2⟩
      simp only [laid, dif_neg able, dif_neg unable]
      exact same

/-- **A tool that makes the same everywhere** leaves no other difference. -/
theorem making_agree (made : List (Location × Entry)) (command : Command) :
    Step.Agree (SameBut spots) (command.run (making made)) (command.run (making made))
      fun _ => SameBut spots := by
  have whole : ∀ {one other : FileTree}, SameBut spots one other →
      SameBut spots (made.foldl laid one) (made.foldl laid other) := by
    induction made with
    | nil => exact fun same => same
    | cons first rest ih => exact fun same => ih (sameBut_laid same first)
  intro first second start
  unfold Command.run
  rw [Step.change_apply, Step.change_apply]
  cases command.isAllowed with
  | true => exact ⟨rfl, start.start, (whole start).found⟩
  | false => exact ⟨rfl, start⟩

theorem making_agreeAt (made : List (Location × Entry)) (command : Command) (path : FilePath) :
    Step.Agree (SameButAt path) (command.run (making made)) (command.run (making made))
      fun _ => SameButAt path := by
  intro first second start
  have based : (command.run (making made) first).2.tree.workingFolder =
      first.tree.workingFolder := by
    unfold Command.run
    rw [Step.change_apply]
    cases command.isAllowed with
    | true => rfl
    | false => rfl
  obtain ⟨ending, same⟩ := making_agree made command first second start
  refine ⟨ending, ?_⟩
  show SameBut (· = path.placeFrom (command.run (making made) first).2.tree.workingFolder) _ _
  rw [based]
  exact same

end Tools

/-! ### What is cleaned up -/

/-- Removing an old call graph gives such a tree. -/
theorem afterCallGraph_discard {tree : FileTree} {name : String}
    (old : tree.MayHoldFile (settings.callGraphFile name)) :
    AfterCallGraph settings name tree (tree.discardFile (settings.callGraphFile name)).2 := by
  obtain ⟨after, done, started, found⟩ := discardFile_of_mayHold old
  rw [done]
  refine ⟨started, fun place elsewhere => ?_, old, .inl ?_⟩
  · rw [found, if_neg elsewhere]
  · rw [started, found, if_pos rfl]

/-- Removing an old manifest, and what has been decompressed, gives such a tree. -/
theorem afterManifest_discard {tree : FileTree} {name : String}
    (old : tree.MayHoldFile (settings.manifestFile name))
    (oldFolder : tree.MayHoldFolder (settings.decompressed name))
    (stillFolder : (tree.discardFile (settings.manifestFile name)).2.MayHoldFolder
      (settings.decompressed name))
    (can : (tree.discardFile (settings.manifestFile name)).2.CanRemove
      (settings.decompressed name)) :
    AfterManifest settings name tree ((tree.discardFile (settings.manifestFile name)).2.discardFolder
      (settings.decompressed name)) := by
  obtain ⟨after, done, started, found⟩ := discardFile_of_mayHold old
  rw [done] at stillFolder can ⊢
  obtain ⟨again, lookup⟩ := discardFolder_of_mayHold stillFolder can
  rw [started] at again lookup
  refine ⟨again, fun place elsewhere outside => ?_, ⟨old, .inl ?_⟩, oldFolder, .inl ?_⟩
  · rw [lookup, if_neg outside, found, if_neg elsewhere]
  · rw [again, lookup, found, if_pos rfl, ite_self]
  · rw [again, lookup, if_pos (List.suffix_refl _)]

section Sample

/-- An application. -/
def anApplication : Application := ⟨"a", .ofString "apks/a.apk"⟩

/-- Artifacts are made again. -/
def remaking : Settings := { force := true }

/-- What earlier runs have left of the application. -/
def oldFiles : FileTree :=
  planted [(remaking.callGraphFile "a", "graph []"), (remaking.manifestFile "a", "old"),
    (sourceFile remaking anApplication, "old")]

/-- The same without the call graph. -/
def noCallGraph : FileTree := (oldFiles.discardFile (remaking.callGraphFile "a")).2

/-- The same without the manifest and what has been decompressed. -/
def noManifest : FileTree :=
  (oldFiles.discardFile (remaking.manifestFile "a")).2.discardFolder (remaking.decompressed "a")

theorem afterCallGraph_oldFiles : AfterCallGraph remaking "a" oldFiles noCallGraph :=
  afterCallGraph_discard (.inr (by decide +kernel))

theorem afterManifest_oldFiles : AfterManifest remaking "a" oldFiles noManifest ∧
    oldFiles.CanRemove (remaking.decompressed "a") ∧
      noManifest.CanRemove (remaking.decompressed "a") := by
  refine ⟨afterManifest_discard (.inr (by decide +kernel)) (.inr (by decide +kernel))
    (.inr (by decide +kernel)) fun _ => Fallible.eq_ok_of_toOption (by decide +kernel),
    fun _ => Fallible.eq_ok_of_toOption (by decide +kernel), fun there => ?_⟩
  have gone : noManifest.isFolder (remaking.decompressed "a") = false := by decide +kernel
  cases gone.symm.trans there

/-- The call graph that is given from a tree, by some tool. -/
def graphFrom (tools : Toolbox) (tree : FileTree) : Except Failure FilePath × Progress :=
  (extractCallGraph tools remaking anApplication).run ⟨tree, []⟩

/-- The manifest that is given from a tree, by some tool. -/
def manifestFrom (tools : Toolbox) (tree : FileTree) : Except Failure FilePath × Progress :=
  (extractManifest tools remaking anApplication).run ⟨tree, []⟩

/-- What earlier runs have left does not matter, neither to tools that do nothing, which then fail,
nor to tools that make a call graph and decompress a manifest. -/
theorem extract_agree_sample :
    (Application.ofPackage? (.ofString "apks/a.apk") = some anApplication ∧
      AfterCallGraph remaking "a" oldFiles noCallGraph ∧
      AfterManifest remaking "a" oldFiles noManifest) ∧
      ((graphFrom silent noCallGraph).1.toOption = none ∧
        (graphFrom silent oldFiles).1 = (graphFrom silent noCallGraph).1) ∧
      ((manifestFrom silent noManifest).1.toOption = none ∧
        (manifestFrom silent oldFiles).1 = (manifestFrom silent noManifest).1) ∧
      ((graphFrom (making (drawn "graph [ ]")) oldFiles).1 = .ok (remaking.callGraphFile "a") ∧
        (graphFrom (making (drawn "graph [ ]")) noCallGraph).2.tree.read
          (remaking.callGraphFile "a") = .ok (Text.encode "graph [ ]") ∧
        SameEntries (graphFrom (making (drawn "graph [ ]")) oldFiles).2.tree
          (graphFrom (making (drawn "graph [ ]")) noCallGraph).2.tree) ∧
      ((manifestFrom (making (unpacked "new")) oldFiles).1 = .ok (remaking.manifestFile "a") ∧
        (manifestFrom (making (unpacked "new")) oldFiles).2.tree.read (remaking.manifestFile "a") =
          .ok (Text.encode "new") ∧
        (manifestFrom (making (unpacked "new")) noManifest).2.tree.read
          (remaking.manifestFile "a") = .ok (Text.encode "new")) := by
  have made : Application.ofPackage? (.ofString "apks/a.apk") = some anApplication := by
    decide +kernel
  have graph := fun tools => (@extract_agree remaking anApplication _ made tools rfl rfl).1
  have manifest := fun tools => (@extract_agree remaking anApplication _ made tools rfl rfl).2
  have undrawn := graph silent (silent_agree _) ⟨oldFiles, []⟩ ⟨noCallGraph, []⟩
    afterCallGraph_oldFiles
  have packed := manifest silent (silent_agree _) ⟨oldFiles, []⟩ ⟨noManifest, []⟩
    afterManifest_oldFiles
  have redrawn := graph (making (drawn "graph [ ]")) (making_agree _ _) ⟨oldFiles, []⟩
    ⟨noCallGraph, []⟩ afterCallGraph_oldFiles
  have repacked := manifest (making (unpacked "new")) (making_agreeAt _ _ _) ⟨oldFiles, []⟩
    ⟨noManifest, []⟩ afterManifest_oldFiles
  have given : (manifestFrom (making (unpacked "new")) oldFiles).1 =
      .ok (remaking.manifestFile "a") := Fallible.eq_ok_of_toOption (by decide +kernel)
  have read : (manifestFrom (making (unpacked "new")) oldFiles).2.tree.read
      (remaking.manifestFile "a") = .ok (Text.encode "new") :=
    Fallible.eq_ok_of_toOption (by decide +kernel)
  obtain ⟨content, first, second⟩ := repacked.2 _ given
  cases first.symm.trans read
  exact ⟨⟨made, afterCallGraph_oldFiles, afterManifest_oldFiles.1⟩,
    ⟨by decide +kernel, undrawn.1⟩, ⟨by decide +kernel, packed.1⟩,
    ⟨Fallible.eq_ok_of_toOption (by decide +kernel),
      Fallible.eq_ok_of_toOption (by decide +kernel), redrawn.2⟩, given, read, second⟩

end Sample

end Artifact

end ApkFeatures
