/-
**Nothing that was left leaks into a batch.**

What a batch makes of its artifacts does not depend on what earlier batches have left: neither on
which folders of tables are there already, nor on the files in them. Whatever it reads it has
written itself before. So a second batch makes the same tables again, byte for byte.

* `Leftovers`, `leftovers_of_lookup?` — trees that differ in what earlier batches may have left.
* `reported_of_results` — tasks that report the same leave the same tables.
* `SameResults`, `sameResults_of_results` — batches that end in the same way.
* `analyse_forgets` — what earlier batches have left does not matter.
* `analyseBy_outputs`, `samePackages_of_touches` — what a batch writes, and that its packages stay.
-/
import ApkFeatures.Proofs.Batch.Agreement

namespace ApkFeatures

open FilePath FileTree Analysis

/-! ### What may have been left -/

/-- A place where a batch may write: that of a table of an application, of a merged table, or of the
report. -/
inductive Settings.IsOutput (settings : Settings) (base : Location) : Location → Prop
  | table (family : Family) (name : Bytes) :
    settings.IsOutput base (name :: (settings.familyFolder family).placeFrom base)
  | dataset (family : Family) : settings.IsOutput base ((settings.datasetFile family).placeFrom base)
  | report : settings.IsOutput base (settings.reportFile.placeFrom base)

theorem Settings.IsOutput.not_way {settings : Settings} {base place : Location}
    (isOutput : settings.IsOutput base place) : ¬ settings.Way base place := by
  cases isOutput with
  | table family name =>
    intro way
    have length := Settings.length_of_way way
    rw [Settings.familyPlace, List.length_cons, List.length_cons] at length
    omega
  | dataset family => exact Settings.not_way_of_dataset
  | report => exact Settings.not_way_of_report

/-- What lies in a folder that is not on the way to the tables is none of the files of a batch. -/
theorem Settings.IsOutput.not_in {settings : Settings} {base place : Location} {name : Bytes}
    (apart : ∀ family, ¬ place <:+ (settings.familyFolder family).placeFrom base) :
    ¬ settings.IsOutput base (name :: place) := by
  have inResults {bytes : Bytes}
      (same : name :: place = bytes :: settings.resultsFolder.placeFrom base) : False := by
    refine apart .permissions ?_
    rw [(List.cons.inj same).2, Settings.familyPlace]
    exact List.suffix_cons _ _
  intro isOutput
  generalize target : name :: place = whole at isOutput
  cases isOutput with
  | table family _ => exact apart family ((List.cons.inj target).2 ▸ List.suffix_refl _)
  | dataset family => exact inResults (target.trans Settings.datasetPlace)
  | report => exact inResults (target.trans Settings.reportPlace)

/-- The trees differ in what earlier batches may have left: in which folders on the way to the
tables there are, and in the files that lie where tables, merged tables and the report do. -/
structure Leftovers (settings : Settings) (directory : FilePath) (before after : FileTree) : Prop
    where
  /-- The same folders can be made. -/
  room : SameRoom settings before after
  /-- The packages are the same. -/
  packages : Application.SamePackages directory before after
  /-- The artifacts are the same. -/
  artifacts : ∀ (family : Family) {name}, IsPlain name →
    SameRead (settings.artifactFile family name) before after
  /-- Where a batch may write, the same folders stand in the way. -/
  clear : ∀ {place}, settings.IsOutput before.workingFolder place →
    (before.lookup? place = some .folder ↔ after.lookup? place = some .folder)

/-- A tree differs in nothing from itself. -/
theorem Leftovers.refl (settings : Settings) (directory : FilePath) (tree : FileTree) :
    Leftovers settings directory tree tree where
  room := .refl settings tree
  packages := by
    unfold Application.SamePackages
    cases Application.packages? tree directory with
    | none => exact .none
    | some packages => exact .some (.refl packages)
  artifacts := fun _ _ _ => rfl
  clear := fun _ => Iff.rfl

/-- Such trees decide about the tables in the same way. -/
theorem Leftovers.alike {settings : Settings} {directory : FilePath}
    {before after : FileTree} (left : Leftovers settings directory before after)
    {subjects : List (String × Family)} (plain : ∀ subject ∈ subjects, IsPlain subject.1) :
    Alike settings subjects [] before after where
  room := left.room
  artifacts := fun subject member => left.artifacts subject.2 (plain subject member)
  clear := fun subject member => by
    rw [subjectPlace, Settings.tablePlace (plain subject member), ← Settings.familyPlace]
    exact left.clear (.table _ _)
  tables := fun _ member => nomatch member

namespace Batch

variable {formats : Formats} {parser : Xml.Parser} {serializer serializer' : Serializer}
  {tools others : Toolbox} {settings : Settings} {times later : Times} {directory : FilePath}
  {applications twins : List Application} {run run' : List Application → Step (List TaskReport)}
  {base : Location} {family : Family} {report : BatchReport} {progress one two : Progress}
  {paths more : List FilePath} {files : List Location} {before before' after after' : FileTree}

/-- What may differ at a place: the file of a batch, or a folder on the way to the tables. -/
inductive MayDiffer (settings : Settings) (before after : FileTree) (place : Location) : Prop
  | same (same : after.lookup? place = before.lookup? place)
  | output (isOutput : settings.IsOutput before.workingFolder place)
    (notFolder : before.lookup? place ≠ some .folder) (notFolder' : after.lookup? place ≠ some .folder)
  | way (isWay : settings.Way before.workingFolder place) (notFile : ¬ before.HoldsFile place)
    (notFile' : ¬ after.HoldsFile place)

/-- Trees that are the same besides the files of batches and the folders on the way to them. -/
theorem leftovers_of_lookup? (start : after.workingFolder = before.workingFolder)
    (packages : Application.SamePackages directory before after)
    (artifacts : ∀ (family : Family) {name}, IsPlain name →
      SameRead (settings.artifactFile family name) before after)
    (each : ∀ place, MayDiffer settings before after place) :
    Leftovers settings directory before after where
  room.workingFolder := start
  room.start := by
    rcases each (settings.resultsFolder.origin before.workingFolder) with
      same | ⟨-, notFolder, notFolder'⟩ | ⟨⟨family, passes⟩, -, -⟩
    · rw [same]
    · exact iff_of_false notFolder notFolder'
    · exact absurd (settings.origin_familyFolder family _).symm passes.proper
  room.way := fun {place} way => by
    rcases each place with same | ⟨isOutput, -, -⟩ | ⟨-, notFile, notFile'⟩
    · rw [HoldsFile, HoldsFile, same]
    · exact absurd way isOutput.not_way
    · exact iff_of_false notFile notFile'
  packages := packages
  artifacts := artifacts
  clear := fun {place} isOutput => by
    rcases each place with same | ⟨-, notFolder, notFolder'⟩ | ⟨way, -, -⟩
    · rw [same]
    · exact iff_of_false notFolder notFolder'
    · exact absurd way isOutput.not_way

/-! ### The tables of the tasks -/

section Tables

variable (descends : settings.Descends) (makes : MakesTables settings run)
  (makes' : MakesTables settings run') (reports : ReportsTables parser settings run)
  (reports' : ReportsTables parser settings run')

include descends makes makes' reports reports'

/-- **Tasks that report the same leave the same tables**, in trees that differ in what earlier
batches have left. -/
theorem reported_of_results (left : Leftovers settings directory one.tree two.tree)
    (same : applications.map Application.name = twins.map Application.name)
    (distinct : (applications.map Application.name).Nodup)
    (named : ∀ application ∈ applications, IsPlain application.name ∧ application.name ≠ "")
    (results : (run applications one).1 = (run' twins two).1) :
    ∃ static dynamic, (run applications one).1 =
        [.completed .staticAnalysis static, .completed .dynamicAnalysis dynamic] ∧
      Reported settings (begun times directory (run applications one).1)
        (run applications one).2.tree (run' twins two).2.tree := by
  have plain : ∀ application ∈ applications, IsPlain application.name :=
    fun application member => (named application member).1
  have plainTwins : ∀ twin ∈ twins, IsPlain twin.name := forall_name_of_same same plain
  obtain ⟨static, dynamic, ran, -, -, faithful⟩ := reports distinct plain
    (@rfl _ one.tree.workingFolder)
  obtain ⟨static', dynamic', ran', -, -, faithful'⟩ :=
    reports' (same ▸ distinct) plainTwins left.room.workingFolder
  have first := makes.touches descends plain (List.Subset.refl _) one rfl
  have second := makes'.touches descends plainTwins (List.Subset.refl _) two left.room.workingFolder
  rw [← allSubjects_congr same] at second
  have start : BothHold settings [] one.tree two.tree :=
    ⟨left.room.workingFolder, fun family => left.clear (.dataset family), fun _ absent => nomatch absent⟩
  have both : BothHold settings [] _ _ := start.of_touches first second fun _ absent => nomatch absent
  have avoids := @avoidsArtifacts_tables settings _ one.tree.workingFolder (plain_subjects plain)
  generalize run applications one = work at *
  generalize run' twins two = work' at *
  obtain ⟨sameStatic, sameDynamic⟩ : static' = static ∧ dynamic' = dynamic := by
    rw [ran, ran'] at results
    simpa [TaskReport.completed, eq_comm] using results
  have outcomes : (begun times directory work.1).tasks.flatMap TaskReport.outcomes =
      static ++ dynamic := by
    rw [ran, begun_tasks, List.flatMap_cons, List.flatMap_singleton]
    rfl
  have subjects : ∀ outcome ∈ static ++ dynamic, ∃ application ∈ applications,
      application.name = outcome.application := fun outcome member =>
    @exists_of_mem_allSubjects applications outcome.subject (by
      rw [allSubjects, ← faithful.about]
      exact List.mem_map_of_mem member)
  refine ⟨static, dynamic, ran, reported_of_tabled parser (by rw [ran]; rfl) ?_ ?_ ?_ ?_ both⟩ <;>
    rw [outcomes]
  · intro outcome member
    obtain ⟨application, inside, sameName⟩ := subjects outcome member
    exact sameName ▸ named application inside
  · exact faithful.tabled
  · rw [← sameStatic, ← sameDynamic]
    exact faithful'.tabled
  · -- Neither run writes where an artifact may lie.
    intro outcome member
    obtain ⟨application, inside, sameName⟩ := subjects outcome member
    have plainName : IsPlain outcome.application := sameName ▸ plain application inside
    exact (sameRead_artifact descends first.writes avoids plainName _).symm.trans
      ((left.artifacts _ plainName).trans
        (sameRead_artifact descends second.writes avoids plainName _))

end Tables

/-- Publishing a report writes its file only, and makes folders on the way only. -/
theorem publish_touches (descends : settings.Descends) (report : BatchReport)
    (inside : settings.reportFile.placeFrom base ∈ files) :
    Step.Keeps (Touching base files (settings.Way base)) (publish serializer settings report) :=
  publish_keeps serializer
    (covers_result (fun _ entered => entered.way descends) Settings.isName_reportName inside)
    (createResults_touches fun _ entered => entered.way descends) report

/-- **What a report says was written is still there when the report is published.** -/
theorem Reported.publish (reported : Reported settings report one.tree two.tree)
    (descends : settings.Descends) (first second : BatchReport) :
    BothHold settings report.written (Batch.publish serializer settings first one).2.tree
      (Batch.publish serializer' settings second two).2.tree := by
  obtain ⟨filed, both⟩ := reported
  have touches (serializer : Serializer) (report : BatchReport) := @publish_touches serializer
    settings one.tree.workingFolder _ descends report (List.mem_singleton_self _)
  refine both.of_touches (touches _ first one rfl) (touches _ second two both.workingFolder)
    fun path member => .inl ⟨member, ?_⟩
  rw [List.mem_singleton]
  rcases List.mem_append.mp member with isTable | isDataset
  · obtain ⟨family, -, inOutputs⟩ := List.mem_flatMap.mp isTable
    obtain ⟨name, plain, -, rfl⟩ := filed.tables family path inOutputs
    exact Settings.tablePlace_ne_reportPlace plain
  · obtain ⟨family, rfl⟩ := filed.datasets path isDataset
    exact Settings.datasetPlace_ne_reportPlace

/-- Two batches end in the same way: both fail for the same reason, or both report the same tasks
and merged tables, and the files that they report have the same content. -/
inductive SameResults :
    Except Failure BatchReport × Progress → Except Failure BatchReport × Progress → Prop
  | failed {failure : Failure} {one two : Progress} :
    SameResults (.error failure, one) (.error failure, two)
  | ended {report other : BatchReport} {one two : Progress} (tasks : report.tasks = other.tasks)
    (datasets : report.datasets = other.datasets)
    (contents : ∀ path ∈ report.written, ∃ content,
      one.tree.read path = .ok content ∧ two.tree.read path = .ok content) :
    SameResults (.ok report, one) (.ok other, two)

/-- A batch writes where it may, and not where an artifact may lie. -/
theorem mem_places (plain : ∀ application ∈ applications, IsPlain application.name)
    {place : Location} (member : place ∈ places settings base applications) :
    settings.IsOutput base place ∧ Settings.lastByte? place ≠ some 108 := by
  rcases List.mem_append.mp member with isTable | other
  · obtain ⟨⟨name, family⟩, about, rfl⟩ := List.mem_map.mp isTable
    obtain ⟨application, inside, rfl⟩ := exists_of_mem_allSubjects about
    have named := plain application inside
    refine ⟨?_, ?_⟩
    · rw [subjectPlace, Settings.tablePlace named, ← Settings.familyPlace]
      exact .table _ _
    · rw [subjectPlace, Settings.lastByte?_tablePlace named]
      decide
  · rcases List.mem_append.mp other with isDataset | isReport
    · obtain ⟨family, -, rfl⟩ := List.mem_map.mp isDataset
      exact ⟨.dataset family, Settings.lastByte?_datasetPlace ▸ by decide⟩
    · rw [List.mem_singleton.mp isReport]
      exact ⟨.report, Settings.lastByte?_reportPlace ▸ by decide⟩

/-- What a batch leaves differs in what earlier batches may have left only. -/
theorem leftovers_of_touches (descends : settings.Descends)
    (packages : Application.SamePackages directory before after)
    (outputs : ∀ place ∈ files, settings.IsOutput before.workingFolder place)
    (avoids : Settings.AvoidsArtifacts files)
    (touches : Touches files (settings.Way before.workingFolder) before after) :
    Leftovers settings directory before after where
  room := .of_touches touches (fun place member => (outputs place member).not_way) fun _ => id
  packages := packages
  artifacts := fun family _ plain => sameRead_artifact descends touches.writes avoids plain family
  clear := fun isOutput => ⟨touches.writes.folder, fun found =>
    (touches.makes _ found).resolve_right isOutput.not_way⟩

/-- **A batch does not change the packages** if they lie neither in the folder of the results nor in
one that it is made in. -/
theorem samePackages_of_touches {names : List Bytes} (descends : directory.Descends)
    (readable : before.list directory = .ok names) (named : ∀ name ∈ names, IsName name)
    (apart : ∀ family, ¬ directory.placeFrom before.workingFolder <:+
      (settings.familyFolder family).placeFrom before.workingFolder)
    (outputs : ∀ place ∈ files, settings.IsOutput before.workingFolder place)
    (touches : Touches files (settings.Way before.workingFolder) before after) :
    Application.SamePackages directory before after := by
  obtain ⟨⟨place, entry⟩, found, listed⟩ := Fallible.bind_eq_ok_iff.mp readable
  cases entry with
  | file content executable => cases listed
  | folder =>
    cases listed
    obtain ⟨located, inFolder⟩ := find?_eq_ok_iff.mp found
    have placed := locate_place located
    have readable' : after.list directory = .ok (after.names place) :=
      Fallible.bind_eq_ok_iff.mpr ⟨(place, .folder), find?_eq_ok_iff.mpr
        ⟨touches.writes.locate located, touches.writes.folder inFolder⟩, rfl⟩
    -- Nothing is written in the folder, and no folder is made in it.
    have outside (name : Bytes) : name :: place ∉ files := fun member =>
      Settings.IsOutput.not_in (placed ▸ apart) (outputs _ member)
    have unmade (name : Bytes) : ¬ settings.Way before.workingFolder (name :: place) := by
      rintro ⟨family, passes⟩
      exact apart family (placed ▸ (List.suffix_cons name place).trans passes.above)
    have holds (name : Bytes) : before.HoldsFile (name :: place) ↔ after.HoldsFile (name :: place) := by
      simp only [HoldsFile, touches.writes.file (outside name)]
    have stands (name : Bytes) : before.lookup? (name :: place) = some .folder ↔
        after.lookup? (name :: place) = some .folder :=
      ⟨touches.writes.folder, fun made => (touches.makes _ made).resolve_right (unmade name)⟩
    have perm : (before.names place).Perm (after.names place) := names_perm fun name => by
      rw [Bool.eq_iff_iff, isSome_lookup?_iff, isSome_lookup?_iff, stands, holds]
    unfold Application.SamePackages Application.packages?
    rw [readable, readable']
    refine .some ?_
    have kept : ∀ path ∈ (before.names place).map (fun name => directory.join ⟨name⟩),
        before.isFile path = after.isFile path := fun path member => by
      obtain ⟨name, inside, rfl⟩ := List.mem_map.mp member
      have isName := named name inside
      rw [Bool.eq_iff_iff, isFile_join_iff descends isName, isFile_join_iff descends isName,
        touches.writes.workingFolder, placeFrom_join isName, ← placed, holds]
    dsimp only
    rw [List.filter_congr kept]
    exact (perm.map _).filter _

/-! ### Whole batches -/

/-- **Batches whose tasks report the same end in the same way**, in whatever way these are run. -/
theorem sameResults_of_results (descends : settings.Descends) (makes : MakesTables settings run)
    (makes' : MakesTables settings run') (reports : ReportsTables parser settings run)
    (reports' : ReportsTables parser settings run')
    (left : Leftovers settings directory one.tree two.tree)
    (results : ∀ {applications twins : List Application} {listed listed' ready ready' : Progress},
      applications.map Application.name = twins.map Application.name →
      (Application.list directory).run one = (.ok applications, listed) →
      (Application.list directory).run two = (.ok twins, listed') →
      ready.tree = one.tree → ready'.tree = two.tree →
      (run applications ready).1 = (run' twins ready').1) :
    SameResults ((analyseBy serializer settings times directory run).run one)
      ((analyseBy serializer' settings later directory run').run two) := by
  rcases Application.list_samePackages left.packages with
    ⟨failure, unlisted, unlisted'⟩ | ⟨applications, twins, told, told', same, listed, listed'⟩
  · rw [analyseBy, analyseBy, Trial.run_bind, Trial.run_bind, unlisted, unlisted']
    exact .failed
  · obtain ⟨-, distinct, named⟩ := Application.list_spec listed
    obtain ⟨ready, readyTree, ran⟩ :=
      @analyseBy_run serializer settings times _ _ run _ _ listed
    obtain ⟨ready', readyTree', ran'⟩ :=
      @analyseBy_run serializer' settings later _ _ run' _ _ listed'
    rw [ran, ran']
    have leftReady : Leftovers settings directory ready.tree ready'.tree := by
      rw [readyTree, readyTree']
      exact left
    have reported := results same listed listed' readyTree readyTree'
    obtain ⟨static, dynamic, tasks, reportedAfter⟩ := @reported_of_results parser settings times
      directory applications twins run run' ready ready' descends makes makes' reports reports'
      leftReady same distinct named reported
    have started : begun later directory (run' twins ready').1 =
        (begun times directory (run applications ready).1).since later.started := by
      rw [← reported, tasks]
      rfl
    obtain ⟨merged, reportedAfter⟩ := mergeAll_agree descends _ _ _ reportedAfter
    simp only [started, mergeAll_since]
    have sameTasks := congrArg BatchReport.tasks merged
    have sameDatasets := congrArg BatchReport.datasets merged
    exact .ended sameTasks sameDatasets (reportedAfter.publish descends _ _).held

/-- **A batch writes tables of applications, merged tables and its report only**, and makes folders
on the way to the tables only, in whatever way its tasks are run. -/
theorem analyseBy_outputs (descends : settings.Descends) (makes : MakesTables settings run)
    (times : Times) (directory : FilePath) (progress : Progress) :
    ∃ files, (∀ place ∈ files, settings.IsOutput progress.tree.workingFolder place) ∧
      Settings.AvoidsArtifacts files ∧
      Touches files (settings.Way progress.tree.workingFolder) progress.tree
        ((analyseBy serializer settings times directory run).run progress).2.tree := by
  obtain ⟨touches, -⟩ := @analyseBy_touches serializer settings run makes times directory progress
  have each := @mem_places settings _ progress.tree.workingFolder
    (Application.plain_listed directory progress)
  exact ⟨_, fun _ member => (each member).1, fun _ member => (each member).2, touches.writes,
    touches.makes.mono fun _ entered => entered.way descends⟩

/-- What a batch leaves differs in what earlier batches may have left only, if the packages stay. -/
theorem leftovers_of_analyseBy (descends : settings.Descends) (makes : MakesTables settings run)
    {after : Progress}
    (again : after.tree = ((analyseBy serializer settings times directory run).run one).2.tree)
    (packages : Application.SamePackages directory one.tree after.tree) :
    Leftovers settings directory one.tree after.tree := by
  obtain ⟨files, outputs, avoids, touches⟩ :=
    @analyseBy_outputs serializer settings run descends makes times directory one
  rw [← again] at touches
  exact leftovers_of_touches descends packages outputs avoids touches

section Batches

variable (off : settings.extract = false) (descends : settings.Descends)

include off descends

/-- **What earlier batches have left does not matter.** -/
theorem sameResults_of_leftovers (left : Leftovers settings directory one.tree two.tree) :
    SameResults ((analyse formats tools settings times directory).run one)
      ((analyse formats others settings later directory).run two) := by
  refine sameResults_of_results descends (runTasks_keeps off tools) (runTasks_keeps off others)
    (runTasks_faithful off tools) (runTasks_faithful off others) left
    fun {applications twins listed listed' ready ready'} same found found' tree tree' => ?_
  have plainTwins : ∀ twin ∈ twins, IsPlain twin.name := fun twin member =>
    ((Application.list_spec found').2.2 twin member).1
  exact (runTasks_agree off descends plainTwins same ready ready' (by
    rw [tree, tree']
    exact left.alike (plain_subjects plainTwins))).1

/-- **Nothing that was left leaks into a batch.** Without tools, a batch ends in the same way
whatever earlier batches have left. So it does when it is run again, if it has not changed the
packages: the same tables are written again, byte for byte. -/
theorem analyse_forgets (formats : Formats) (tools : Toolbox) (times : Times)
    (directory : FilePath) (one : Progress) :
    let first := (analyse formats tools settings times directory).run one
    (∀ {others later two}, Leftovers settings directory one.tree two.tree →
      SameResults first ((analyse formats others settings later directory).run two)) ∧
    ∀ {others later two}, two.tree = first.2.tree →
      Application.SamePackages directory one.tree two.tree →
      SameResults first ((analyse formats others settings later directory).run two) :=
  ⟨sameResults_of_leftovers off descends, fun again packages =>
    sameResults_of_leftovers off descends
      (leftovers_of_analyseBy descends (runTasks_keeps off tools) again packages)⟩

end Batches

/-! ### One package -/

section Sample

/-- Artifacts are used as they are, and the results are kept apart. -/
def keptApart : Settings := { extract := false, resultsFolder := .ofString "out" }

/-- A package and a manifest. -/
def onePackage : FileTree :=
  let packages := FileTree.empty.put [] (Text.encode "apks") .folder folder_root (by decide)
  let package := packages.put [Text.encode "apks"] (Text.encode "a.apk") (.file [] false)
    (by decide) (by decide)
  let manifests := package.put [] (Text.encode "manifests") .folder rfl (by decide)
  manifests.put [Text.encode "manifests"] (Text.encode "a_AndroidManifest.xml")
    (.file (Text.encode "android.permission.INTERNET") false) (by decide) (by decide)

/-- The same with the folders of tables, a table and a merged table of other content. -/
def withLeftovers : FileTree :=
  let out := onePackage.put [] (Text.encode "out") .folder (by decide) (by decide)
  let tables := out.put [Text.encode "out"] (Text.encode "permissions_data") .folder (by decide)
    (by decide)
  let table := tables.put [Text.encode "permissions_data", Text.encode "out"] (Text.encode "a.csv")
    (.file [255] false) (by decide) (by decide)
  table.put [Text.encode "out"] (Text.encode "permissions_merged.csv") (.file [255] false)
    (by decide) (by decide)

theorem lookup?_withLeftovers (place : Location) :
    withLeftovers.lookup? place =
      if place = [Text.encode "permissions_merged.csv", Text.encode "out"] then
        some (.file [255] false)
      else if place = [Text.encode "a.csv", Text.encode "permissions_data", Text.encode "out"] then
        some (.file [255] false)
      else if place = [Text.encode "permissions_data", Text.encode "out"] then some .folder
      else if place = [Text.encode "out"] then some .folder else onePackage.lookup? place := by
  rw [withLeftovers, lookup?_put, lookup?_put, lookup?_put, lookup?_put]

theorem mayDiffer_withLeftovers (place : Location) :
    MayDiffer keptApart onePackage withLeftovers place := by
  have found := lookup?_withLeftovers place
  split at found
  · rename_i same
    subst same
    exact .output (Settings.IsOutput.dataset .permissions) (by decide) (by rw [found]; simp)
  · split at found
    · rename_i same
      subst same
      exact .output (Settings.IsOutput.table .permissions (Text.encode "a.csv")) (by decide)
        (by rw [found]; simp)
    · have holds {place : Location} (stands : withLeftovers.lookup? place = some .folder)
          (free : onePackage.lookup? place = none)
          (passes : (keptApart.familyFolder .permissions).Passes [] place) :
          MayDiffer keptApart onePackage withLeftovers place :=
        .way ⟨.permissions, passes⟩ (by simp [HoldsFile, free]) (not_holdsFile stands)
      split at found
      · rename_i same
        subst same
        exact holds found (by decide) ⟨by decide, by decide, by decide⟩
      · split at found
        · rename_i same
          subst same
          exact holds found (by decide) ⟨by decide, by decide, by decide⟩
        · exact .same found

theorem leftovers_withLeftovers :
    Leftovers keptApart (.ofString "/apks") onePackage withLeftovers := by
  refine leftovers_of_lookup? rfl ?_ (fun family name plain => ?_) mayDiffer_withLeftovers
  · rw [Application.SamePackages, show Application.packages? onePackage (.ofString "/apks") =
      some [.ofString "/apks/a.apk"] by decide, show Application.packages? withLeftovers
      (.ofString "/apks") = some [.ofString "/apks/a.apk"] by decide]
    exact .some (List.Perm.refl _)
  · have descends : (keptApart.artifactFolder family).Descends := by cases family <;> decide
    have place := @Settings.artifactPlace keptApart [] _ plain family
    rw [Settings.artifactFile_eq] at place ⊢
    refine sameRead_of_lookup? descends (Settings.isName_artifactName plain family) rfl ?_
    rw [show onePackage.workingFolder = [] from rfl, place, lookup?_withLeftovers]
    repeat rw [if_neg fun same => absurd (List.cons.inj same).2 (by cases family <;> decide)]

end Sample

/-- A batch on a package with a table, from a tree with other tables, and once more. -/
theorem analyse_forgets_sample :
    keptApart.extract = false ∧ keptApart.Descends ∧
      Leftovers keptApart (.ofString "/apks") onePackage withLeftovers ∧
      let first := (analyse .own noTools keptApart ⟨"1", "2"⟩ (.ofString "/apks")).run
        ⟨onePackage, []⟩
      let second := (analyse .own noTools keptApart ⟨"3", "4"⟩ (.ofString "/apks")).run
        ⟨withLeftovers, []⟩
      let again := (analyse .own noTools keptApart ⟨"5", "6"⟩ (.ofString "/apks")).run
        ⟨first.2.tree, []⟩
      Application.SamePackages (.ofString "/apks") onePackage first.2.tree ∧
        SameResults first second ∧ SameResults first again := by
  have descends : keptApart.Descends := ⟨by decide, by decide, by decide⟩
  obtain ⟨files, outputs, -, touches⟩ := @analyseBy_outputs Formats.own.serializer keptApart
    (runTasks Formats.own.parser noTools keptApart) descends (runTasks_keeps rfl noTools) ⟨"1", "2"⟩
    (.ofString "/apks") ⟨onePackage, []⟩
  have packages := samePackages_of_touches (by decide)
    (show onePackage.list (.ofString "/apks") = .ok [Text.encode "a.apk"] by decide)
    (fun name member => by
      rw [List.mem_singleton.mp member]
      exact ⟨by decide, by decide, by decide⟩)
    (fun family => by cases family <;> decide) outputs touches
  obtain ⟨second, again⟩ := analyse_forgets rfl descends .own noTools ⟨"1", "2"⟩
    (.ofString "/apks") ⟨onePackage, []⟩
  exact ⟨rfl, descends, leftovers_withLeftovers, packages, second leftovers_withLeftovers,
    again rfl packages⟩

end Batch

end ApkFeatures
