/-
**What is read and done without tools.**

Without tools the work on an application reads its artifacts and makes its tables. What is had of an
artifact is told by the content of its file alone, and a table is saved by making a folder and
writing a file. So the work keeps whatever the making of its tables keeps, and does the same from
different files as long as they decide about its artifacts and its tables in the same way.

* `reading`, `readManifest_reading`, `callGraphIn`, `saveSensitive_reading` — what is had of an
  artifact.
* `saveTable_run` — how a table is saved.
* `manifestOutcomes_keeps`, `callGraphOutcome_keeps` — nothing is done but what makes the tables.
* `Decides` — a relation between trees that decides about a table.
* `manifestOutcomes_agree`, `callGraphOutcome_agree` — what is decided in the same way is done in the
  same way.
-/
import ApkFeatures.Proofs.Agreement
import ApkFeatures.Proofs.Analysis.Outcomes
import ApkFeatures.Proofs.Footprint
import ApkFeatures.Proofs.Settings

namespace ApkFeatures

namespace Analysis

open FilePath FileTree

variable {parser : Xml.Parser} {tools others : Toolbox} {settings : Settings}
  {application other : Application}
  {before after : FileTree} {relation : FileTree → FileTree → Prop}

/-! ### Artifacts -/

/-- The text of an artifact without tools, or why there is none. -/
def reading (tree : FileTree) (attempt : FilePath → Attempt) (artifact : FilePath) :
    Except Failure String :=
  if tree.hasContent artifact then
    match tree.readText artifact with
    | .ok text => .ok text
    | .error _ => .error (.attempt (attempt artifact))
  else .error (.missing artifact)

theorem reading_eq_ok {tree : FileTree} {attempt : FilePath → Attempt} {path : FilePath}
    {text : String} (had : reading tree attempt path = .ok text) :
    tree.readText path = .ok text := by
  unfold reading at had
  split at had
  · cases read : tree.readText path <;> simp_all
  · cases had

theorem reading_congr {path : FilePath} (same : SameRead path before after)
    (attempt : FilePath → Attempt) : reading before attempt path = reading after attempt path := by
  have text := same.readText
  unfold reading
  rw [same.hasContent]
  cases first : before.readText path <;> cases second : after.readText path <;>
    simp_all [Except.toOption]

section Artifacts

variable (off : settings.extract = false)

include off

theorem isReusable_reading (artifact : FilePath) (progress : Progress) :
    (Artifact.isReusable settings artifact).run progress =
      (if progress.tree.hasContent artifact then .ok true else .error (.missing artifact),
        progress) := by
  rw [Artifact.isReusable, Trial.run_of_bind, off, Step.ask_apply]
  cases progress.tree.hasContent artifact <;> rfl

/-- **What is had of a manifest is what can be read of it.** -/
theorem readManifest_reading (tools : Toolbox) (application : Application) (progress : Progress) :
    ∃ told, (readManifest tools settings application).run progress =
      (reading progress.tree .readFile (settings.manifestFile application.name),
        { progress with told := told }) := by
  have reusable := isReusable_reading off (settings.manifestFile application.name) progress
  unfold reading
  rw [readManifest, Trial.run_bind, Artifact.extractManifest, Trial.run_bind, reusable]
  cases present : progress.tree.hasContent (settings.manifestFile application.name) with
  | false => exact ⟨progress.told, rfl⟩
  | true =>
    simp only [if_true, Trial.tell, Trial.run_of_bind, Trial.run_pure, Trial.run_ask]
    rw [show (Step.tell _ _ _ progress).2.tree = progress.tree from rfl]
    cases progress.tree.readText (settings.manifestFile application.name) <;> exact ⟨_, rfl⟩

/-- The call graph in an artifact, or why there is none. -/
def callGraphIn (settings : Settings) (tree : FileTree) (application : String) :
    Except Failure CallGraph := do
  let source ← reading tree .readCallGraph (settings.callGraphFile application)
  (CallGraph.load source.toList).mapError .callGraph

/-- **What is saved for a call graph is what can be read of it.** -/
theorem saveSensitive_reading (tools : Toolbox) (application : Application) (progress : Progress) :
    ∃ told, (saveSensitive tools settings application).run progress =
      match callGraphIn settings progress.tree application.name with
      | .error failure => (.error failure, { progress with told := told })
      | .ok graph =>
        (saveTable graph.sensitiveCallers.features
          (settings.tableFile .sensitiveApis application.name)
          (Family.sensitiveApis.identifier? application.name) >>= fun _ =>
            pure (settings.tableFile .sensitiveApis application.name)).run
          { progress with told := told } := by
  have reusable := isReusable_reading off (settings.callGraphFile application.name) progress
  unfold callGraphIn reading
  rw [saveSensitive, Trial.run_bind, Artifact.extractCallGraph, Trial.run_bind, reusable]
  cases present : progress.tree.hasContent (settings.callGraphFile application.name) with
  | false => exact ⟨progress.told, rfl⟩
  | true =>
    simp only [if_true, Trial.tell, Trial.run_of_bind, Trial.run_pure]
    rw [Trial.run_bind, loadCallGraph, Trial.run_bind, Trial.run_ask]
    rw [show (Step.tell _ _ _ progress).2.tree = progress.tree from rfl]
    cases progress.tree.readText (settings.callGraphFile application.name) with
    | error fault => exact ⟨_, rfl⟩
    | ok source =>
      rw [Trial.run_settle_ok]
      simp only [bind, Except.bind]
      cases CallGraph.load source.toList <;> exact ⟨_, rfl⟩

end Artifacts

/-! ### Tables -/

section Tables

variable {vocabulary : Vocabulary} {features : FeatureVector vocabulary} {folder path : FilePath}
  {bytes : Bytes} {identifier? : Option Identifier}

theorem saveTable_run (named : IsName bytes) (progress : Progress) :
    (saveTable features (folder.join ⟨bytes⟩) identifier?).run progress =
      match progress.tree.createFolders (parentOf folder.inside) with
      | (.error _, made) => (.error (.attempt (.createFolder (parentOf folder.inside))),
          { progress with tree := made })
      | (.ok (), made) =>
        match made.write (folder.join ⟨bytes⟩) (Text.encode (features.csv identifier?)) with
        | .error _ => (.error (.attempt (.createFile (folder.join ⟨bytes⟩))),
            { progress with tree := made })
        | .ok after => (.ok (), { progress with tree := after }) := by
  rw [saveTable, parent?_join named]
  dsimp only
  rw [Trial.run_bind, Trial.run_change]
  rcases progress.tree.createFolders (parentOf folder.inside) with ⟨fault | done, made⟩
  · rfl
  · rw [Trial.run_settle_ok]
    dsimp only
    rw [Trial.run_change, Step.whole]
    cases made.write (folder.join ⟨bytes⟩) (Text.encode (features.csv identifier?)) <;> rfl

/-- A table is made as any other file, so it keeps what that keeps. -/
theorem saveTable_keeps [IsFrame relation] (covers : Covers relation path) :
    Trial.Keeps relation (saveTable features path identifier?) := by
  have parents := covers.parent
  unfold createParent at parents
  rw [saveTable]
  cases found : path.parent? with
  | none => exact .write covers _ _
  | some parent =>
    simp only [found] at parents
    exact (Trial.Keeps.change _ parents).bind fun _ => .write covers _ _

end Tables

/-! ### What is kept -/

section Frames

variable [IsFrame relation]

theorem saveFamily_keeps {vocabulary : Vocabulary} {family : Family}
    (covers : Covers relation (settings.tableFile family application.name))
    (features : FeatureVector vocabulary) :
    Step.Keeps relation (saveFamily settings application family features) := by
  unfold saveFamily
  refine Step.Keeps.bind (saveTable_keeps covers) fun saved => ?_
  cases saved with
  | ok done => exact .pure _
  | error failure => exact (Step.Keeps.tell _ _ _).bind fun _ => .pure _

/-- **For a manifest nothing is done but what makes its tables.** -/
theorem manifestOutcomes_keeps (off : settings.extract = false) (tools : Toolbox)
    (covers : ∀ family ∈ Task.staticAnalysis.families,
      Covers relation (settings.tableFile family application.name)) :
    Step.Keeps relation (manifestOutcomes parser tools settings application) := by
  refine Step.Keeps.bind (.of_tree fun progress => ?_) fun read => ?_
  · obtain ⟨told, ran⟩ := readManifest_reading off tools application progress
    rw [ran]
  · cases read with
    | ok manifest =>
      refine Step.Keeps.bind ?_ fun permissions => Step.Keeps.bind ?_ fun intents => .pure _
      · exact (Step.Keeps.tellAll _).bind fun _ => saveFamily_keeps (covers .permissions (by decide)) _
      · refine (Step.Keeps.tellAll _).bind fun _ => ?_
        cases Manifest.intents parser manifest.toList with
        | ok intents =>
          exact (Step.Keeps.tell _ _ _).bind fun _ => saveFamily_keeps (covers .intents (by decide)) _
        | error fault => exact (Step.Keeps.tell _ _ _).bind fun _ => .pure _
    | error failure => exact (Step.Keeps.tell _ _ _).bind fun _ => .pure _

/-- **For a call graph nothing is done but what makes its table.** -/
theorem callGraphOutcome_keeps (off : settings.extract = false) (tools : Toolbox)
    (covers : Covers relation (settings.tableFile .sensitiveApis application.name)) :
    Step.Keeps relation (callGraphOutcome tools settings application) := by
  refine Step.Keeps.bind (fun progress => ?_) fun saved => ?_
  · obtain ⟨told, ran⟩ := saveSensitive_reading off tools application progress
    rw [ran]
    cases callGraphIn settings progress.tree application.name with
    | error failure => exact IsFrame.refl progress.tree
    | ok graph =>
      exact (saveTable_keeps covers).bind (fun _ => .pure _) { progress with told := told }
  · cases saved with
    | ok output => exact .pure _
    | error failure => exact (Step.Keeps.tell _ _ _).bind fun _ => .pure _

end Frames

/-! ### What is done in the same way -/

/-- Trees that are related decide in the same way what is read and saved for an application and a
family. -/
structure Decides (relation : FileTree → FileTree → Prop) (settings : Settings)
    (application : String) (family : Family) : Prop where
  /-- The artifact has the same content. -/
  reads : ∀ {before after}, relation before after →
    SameRead (settings.artifactFile family application) before after
  /-- A table is saved in both trees, or in none for the same reason. -/
  saves : ∀ {vocabulary : Vocabulary} (features : FeatureVector vocabulary)
    (identifier? : Option Identifier),
    Step.Agree relation
      (saveTable features (settings.tableFile family application) identifier?).run
      (saveTable features (settings.tableFile family application) identifier?).run fun _ => relation

section Work

variable (same : application.name = other.name)

include same

theorem saveFamily_agree {vocabulary : Vocabulary} {family : Family}
    (decides : Decides relation settings other.name family) (features : FeatureVector vocabulary) :
    Step.Agree relation (saveFamily settings application family features)
      (saveFamily settings other family features) fun _ => relation := by
  unfold saveFamily
  rw [same]
  refine (decides.saves _ _).bind fun saved => ?_
  cases saved with
  | ok done => exact .pure _
  | error failure => exact (Step.Agree.tell _ _ _ _).bind fun _ => .pure _

theorem permissionOutcome_agree (decides : Decides relation settings other.name .permissions)
    (manifest : String) :
    Step.Agree relation (permissionOutcome settings application manifest)
      (permissionOutcome settings other manifest) fun _ => relation :=
  (Step.Agree.tellAll _ _).bind fun _ => saveFamily_agree same decides _

theorem intentOutcome_agree (decides : Decides relation settings other.name .intents)
    (manifest : String) :
    Step.Agree relation (intentOutcome parser settings application manifest)
      (intentOutcome parser settings other manifest) fun _ => relation := by
  refine (Step.Agree.tellAll _ _).bind fun _ => ?_
  cases Manifest.intents parser manifest.toList with
  | ok intents =>
    exact (Step.Agree.tell _ _ _ _).bind fun _ => saveFamily_agree same decides _
  | error fault =>
    rw [same]
    exact (Step.Agree.tell _ _ _ _).bind fun _ => .pure _

variable (off : settings.extract = false)

include off

theorem readManifest_agree (decides : Decides relation settings other.name .permissions) :
    Step.Agree relation (readManifest tools settings application).run
      (readManifest others settings other).run fun _ => relation := by
  intro one two related
  obtain ⟨told, ran⟩ := readManifest_reading off tools application one
  obtain ⟨told', ran'⟩ := readManifest_reading off others other two
  rw [ran, ran', same]
  exact ⟨reading_congr (decides.reads related) .readFile, related⟩

/-- **A manifest is analysed in the same way where it is decided in the same way.** -/
theorem manifestOutcomes_agree
    (decides : ∀ family ∈ Task.staticAnalysis.families,
      Decides relation settings other.name family) :
    Step.Agree relation (manifestOutcomes parser tools settings application)
      (manifestOutcomes parser others settings other) fun _ => relation := by
  have permissions := decides .permissions (by decide)
  refine (readManifest_agree same off permissions).bind fun read => ?_
  cases read with
  | ok manifest =>
    exact (permissionOutcome_agree same permissions manifest).bind fun _ =>
      (intentOutcome_agree same (decides .intents (by decide)) manifest).bind fun _ => .pure _
  | error failure =>
    rw [same]
    exact (Step.Agree.tell _ _ _ _).bind fun _ => .pure _

variable (decides : Decides relation settings other.name .sensitiveApis)

include decides

theorem saveSensitive_agree :
    Step.Agree relation (saveSensitive tools settings application).run
      (saveSensitive others settings other).run fun _ => relation := by
  intro one two related
  have graphs : callGraphIn settings one.tree other.name =
      callGraphIn settings two.tree other.name :=
    congrArg (· >>= _) (reading_congr (decides.reads related) .readCallGraph)
  obtain ⟨told, ran⟩ := saveSensitive_reading off tools application one
  obtain ⟨told', ran'⟩ := saveSensitive_reading off others other two
  rw [ran, ran', same, graphs]
  cases callGraphIn settings two.tree other.name with
  | error failure => exact ⟨rfl, related⟩
  | ok graph =>
    dsimp only
    obtain ⟨results, reached⟩ := decides.saves graph.sensitiveCallers.features
      (Family.sensitiveApis.identifier? other.name) { one with told := told }
      { two with told := told' } related
    rw [Trial.run_bind, Trial.run_bind]
    rcases first : (saveTable _ _ _).run { one with told := told } with ⟨result, after⟩
    rcases second : (saveTable _ _ _).run { two with told := told' } with ⟨result', after'⟩
    rw [first, second] at results reached
    cases results
    cases result <;> exact ⟨rfl, reached⟩

/-- **A call graph is analysed in the same way where it is decided in the same way.** -/
theorem callGraphOutcome_agree :
    Step.Agree relation (callGraphOutcome tools settings application)
      (callGraphOutcome others settings other) fun _ => relation := by
  refine (saveSensitive_agree same off decides).bind fun saved => ?_
  rw [same]
  cases saved with
  | ok output => exact .pure _
  | error failure => exact (Step.Agree.tell _ _ _ _).bind fun _ => .pure _

end Work

/-- The same files decide in the same way. -/
theorem decides_eq {name : String} (plain : IsPlain name) (family : Family) :
    Decides Eq settings name family where
  reads := fun same => same ▸ .refl _ _
  saves := fun features identifier? one two same => by
    have run := @saveTable_run _ features (settings.familyFolder family) _ identifier?
      (Settings.isName_tableName plain)
    rw [show settings.tableFile family name =
      (settings.familyFolder family).join ⟨Text.encode (name ++ ".csv")⟩ from rfl, run, run, same]
    rcases two.tree.createFolders (parentOf (settings.familyFolder family).inside) with
      ⟨fault | done, made⟩
    · exact ⟨rfl, rfl⟩
    · dsimp only
      cases made.write ((settings.familyFolder family).join ⟨Text.encode (name ++ ".csv")⟩)
        (Text.encode (features.csv identifier?)) <;> exact ⟨rfl, rfl⟩

end Analysis

end ApkFeatures
