/-
**The merging of several families.**

The families are merged one after the other. Where every application has a table that holds its
features, the merged table of its family is made of these tables, and the merging of other families
touches neither the tables nor the merged table. Only a folder in its place keeps a merged table
from being written.

* `MergedFrom` — what a merged table is made of.
* `mergeFamily_run`, `mergeFamily_of_folder`, `mergeFamily_writes` — one family.
* `MergesAll`, `mergeFamilies_spec` — several families.
-/
import ApkFeatures.Proofs.Batch.Outcomes
import ApkFeatures.Proofs.Report.Merging

namespace ApkFeatures

open FileTree Analysis

/-- A merged table of a family is made of a table of some applications with their features: they
come in the order of the names of their tables, and each one has a line with its features. -/
structure MergedFrom (parser : Xml.Parser) (settings : Settings) (tree : FileTree)
    (family : Family) (names : List String)
    (table : List (String × FeatureVector family.vocabulary)) : Prop where
  /-- The applications are the given ones. -/
  applications : (table.map Prod.fst).Perm names
  /-- They are strictly ascending. -/
  ordered : (table.map Prod.fst).Pairwise Precedes
  /-- Every application has the features that its artifact says. -/
  features : ∀ entry ∈ table, HasFeatures parser settings tree family entry.1 entry.2
  /-- The merged table has these lines, byte for byte. -/
  content : tree.read (settings.datasetFile family) =
    .ok (Text.encode (Dataset.text family table))

/-- Names of applications that can have lines in the same merged table. -/
structure AreRows (names : List String) : Prop where
  /-- They differ from each other. -/
  distinct : names.Nodup
  /-- Each one can be the beginning of the name of a file. -/
  plain : ∀ name ∈ names, IsPlain name
  /-- None of them is empty. -/
  nonempty : ∀ name ∈ names, name ≠ ""
  /-- Each one is on one line. -/
  oneLine : ∀ name ∈ names, '\n' ∉ name.toList

/-- Every application has features in a family, and a table that holds them. -/
def Supplied (parser : Xml.Parser) (settings : Settings) (tree : FileTree) (family : Family)
    (names : List String) : Prop :=
  ∀ name ∈ names, ∃ features, HasFeatures parser settings tree family name features ∧
    Dataset.Holds settings tree family (name, features)

namespace Batch

variable {parser : Xml.Parser} {settings : Settings} {base : Location} {family : Family}
  {report : BatchReport} {progress : Progress} {names : List String}

/-! ### One family -/

/-- What every name has can be listed with the names. -/
theorem exists_entries {Features : Type} {has : String → Features → Prop}
    (each : ∀ name ∈ names, ∃ features, has name features) :
    ∃ table : List (String × Features), table.map Prod.fst = names ∧
      ∀ entry ∈ table, has entry.1 entry.2 := by
  induction names with
  | nil => exact ⟨[], rfl, fun entry member => nomatch member⟩
  | cons name others ih =>
    obtain ⟨table, listed, given⟩ :=
      ih fun later member => each later (List.mem_cons_of_mem _ member)
    obtain ⟨features, found⟩ := each name List.mem_cons_self
    refine ⟨(name, features) :: table, congrArg (name :: ·) listed, fun entry member => ?_⟩
    rcases List.mem_cons.mp member with rfl | later
    · exact found
    · exact given entry later

/-- **The tables of a family are merged**, if there are any and nothing stands in the way. -/
theorem mergeFamily_run (rows : AreRows names) (nonempty : names ≠ [])
    (outputs : report.outputs family = names.map (settings.tableFile family))
    (supplied : Supplied parser settings progress.tree family names)
    (free : progress.tree.isFolder (settings.datasetFile family) = false) :
    ∃ after table, mergeFamily settings report family progress =
        (report.addDataset ⟨family, settings.datasetFile family, names.length⟩, after) ∧
      MergedFrom parser settings after.tree family names table := by
  have sorted := byTable_perm names
  obtain ⟨table, listed, given⟩ := exists_entries fun name member =>
    supplied name (sorted.mem_iff.mp member)
  have inNames : ∀ entry ∈ table, entry.1 ∈ names := fun entry member => by
    rw [← sorted.mem_iff, ← listed]
    exact List.mem_map_of_mem member
  obtain ⟨place, reached⟩ : ∃ place, progress.tree.Reaches settings.resultsFolder
      (Text.encode family.datasetName) place := by
    obtain ⟨name, others, rfl⟩ := List.exists_cons_of_ne_nil nonempty
    obtain ⟨features, -, holds⟩ := supplied name List.mem_cons_self
    exact Dataset.reaches_dataset (rows.plain name List.mem_cons_self)
      (rows.nonempty name List.mem_cons_self) holds
  have ordered : Dataset.withoutRepeats (Dataset.byFileName (report.outputs family)) =
      table.map fun entry => settings.tableFile family entry.1 := by
    rw [outputs, Dataset.byFileName_tables rows.plain, Dataset.withoutRepeats_tables
      (fun name member => rows.plain name (sorted.mem_iff.mp member))
      (sorted.nodup_iff.mpr rows.distinct), ← listed, List.map_map]
    rfl
  obtain ⟨after, merged, content⟩ := Dataset.merge_run reached free ordered
    (fun entry member => rows.plain entry.1 (inNames entry member))
    (fun entry member => rows.oneLine entry.1 (inNames entry member))
    fun entry member => (given entry member).2
  have only := @Dataset.merge_writes settings family (report.outputs family)
    progress.tree.workingFolder progress rfl
  rw [merged] at only
  have length : table.length = names.length := by
    rw [← sorted.length_eq, ← listed, List.length_map]
  have hasOutputs : report.outputs family ≠ [] := by
    rw [outputs]
    exact mt List.map_eq_nil_iff.mp nonempty
  refine ⟨after, table, ?_, listed ▸ sorted, listed ▸ byTable_pairwise rows.distinct,
    fun entry member => ?_, content⟩
  · rw [mergeFamily_of_dataset hasOutputs merged, length]
  · exact (given entry member).1.of_onlyWrites only (Settings.artifactPlace_notMem
      (rows.plain entry.1 (inNames entry member)) Settings.avoidsArtifacts_dataset)

/-- Where a folder stands no merged table can be written. -/
theorem mergeFamily_of_folder (nonempty : report.outputs family ≠ [])
    (stands : progress.tree.isFolder (settings.datasetFile family) = true) :
    ∃ after, mergeFamily settings report family progress = (report, after) := by
  obtain ⟨failure, reached, refused⟩ := Dataset.merge_of_folder (report.outputs family) stands
  obtain ⟨told, ran⟩ := mergeFamily_of_failure nonempty refused
  exact ⟨_, ran⟩

/-- **What a merged table is made of stays**, if neither it nor an artifact is written. -/
theorem mergedFrom_of_onlyWrites {before after : FileTree} {files : List Location}
    {table : List (String × FeatureVector family.vocabulary)}
    (merged : MergedFrom parser settings before family names table)
    (plain : ∀ name ∈ names, IsPlain name) (only : OnlyWrites files before after)
    (avoids : Settings.AvoidsArtifacts files)
    (elsewhere : (settings.datasetFile family).placeFrom before.workingFolder ∉ files) :
    MergedFrom parser settings after family names table where
  applications := merged.applications
  ordered := merged.ordered
  features := fun entry member => by
    have inNames := merged.applications.mem_iff.mp (List.mem_map_of_mem member)
    exact (merged.features entry member).of_onlyWrites only
      (Settings.artifactPlace_notMem (plain entry.1 inNames) avoids)
  content := only.read elsewhere merged.content

/-- Merging a family only makes its merged table. -/
theorem mergeFamily_keeps {relation : FileTree → FileTree → Prop} [IsFrame relation]
    (covers : Covers relation (settings.datasetFile family)) (report : BatchReport) :
    Step.Keeps relation (mergeFamily settings report family) := by
  unfold mergeFamily
  split
  · exact (Step.Keeps.tell _ _ _).bind fun _ => .pure report
  · refine Step.Keeps.bind (Dataset.merge_keeps covers family _) fun merged => ?_
    cases merged with
    | ok dataset => exact .pure _
    | error failure => exact (Step.Keeps.tell _ _ _).bind fun _ => .pure report

theorem mergeFamily_writes (settings : Settings) (report : BatchReport) (family : Family)
    (base : Location) :
    Step.Keeps (Writing base [(settings.datasetFile family).placeFrom base])
      (mergeFamily settings report family) :=
  mergeFamily_keeps (covers_writing family.isName_datasetName base) report

/-- The places of the merged tables of the families of which there are tables. -/
def datasetPlaces (settings : Settings) (base : Location) (named : Family → List String)
    (families : List Family) : List Location :=
  (families.filter fun family => named family ≠ []).map fun family =>
    (settings.datasetFile family).placeFrom base

/-- The tables of some families are merged: those of which there are any, in order, unless a folder
stands in the place of the merged table. -/
structure MergesAll (parser : Xml.Parser) (settings : Settings) (base : Location)
    (named : Family → List String) (families : List Family) (old new : BatchReport)
    (before after : FileTree) : Prop where
  /-- The merged tables are reported. -/
  datasets : new.datasets = old.datasets ++ (families.filter fun family =>
      named family ≠ [] ∧ after.isFolder (settings.datasetFile family) = false).map fun family =>
    ⟨family, settings.datasetFile family, (named family).length⟩
  /-- No other file is written. -/
  writes : OnlyWrites (datasetPlaces settings base named families) before after
  /-- The merged tables are made of the tables of the families. -/
  merged : ∀ family ∈ families, named family ≠ [] →
    after.isFolder (settings.datasetFile family) = false →
      ∃ table, MergedFrom parser settings after family (named family) table

theorem avoidsArtifacts_datasetPlaces {named : Family → List String} {families : List Family} :
    Settings.AvoidsArtifacts (datasetPlaces settings base named families) := by
  intro place member
  obtain ⟨family, -, rfl⟩ := List.mem_map.mp member
  exact Settings.avoidsArtifacts_dataset _ (List.mem_singleton_self _)

theorem datasetPlace_notMem {named : Family → List String} {families : List Family}
    (other : family ∉ families) :
    (settings.datasetFile family).placeFrom base ∉ datasetPlaces settings base named families := by
  intro member
  obtain ⟨same, inside, place⟩ := List.mem_map.mp member
  exact other (Settings.datasetPlace_inj.mp place ▸ List.mem_of_mem_filter inside)

/-- Tables are not touched by merging. -/
theorem supplied_of_merged {other : Family} {before after : FileTree} (rows : AreRows names)
    (supplied : Supplied parser settings before family names) (start : before.workingFolder = base)
    (only : OnlyWrites [(settings.datasetFile other).placeFrom base] before after) :
    Supplied parser settings after family names := by
  intro name member
  obtain ⟨features, has, holds⟩ := supplied name member
  have plain := rows.plain name member
  refine ⟨features, has.of_onlyWrites only (Settings.artifactPlace_notMem plain
    Settings.avoidsArtifacts_dataset), only.read ?_ holds⟩
  rw [start, List.mem_singleton]
  exact Settings.tablePlace_ne_datasetPlace plain

namespace MergesAll

variable {named : Family → List String} {rest : List Family} {old new : BatchReport}
  {before between after : FileTree}

/-- A family without tables is passed over. -/
theorem skip (nothing : named family = [])
    (others : MergesAll parser settings base named rest old new before after) :
    MergesAll parser settings base named (family :: rest) old new before after := by
  refine ⟨?_, ?_, fun other member nonempty free => ?_⟩
  · rw [List.filter_cons_of_neg (by simp [nothing])]
    exact others.datasets
  · rw [datasetPlaces, List.filter_cons_of_neg (by simp [nothing])]
    exact others.writes
  · rcases List.mem_cons.mp member with rfl | later
    · exact absurd nothing nonempty
    · exact others.merged other later nonempty free

/-- What is written for one family and then for others. -/
theorem writes_cons (nonempty : named family ≠ [])
    (first : OnlyWrites [(settings.datasetFile family).placeFrom base] before between)
    (others : OnlyWrites (datasetPlaces settings base named rest) between after) :
    OnlyWrites (datasetPlaces settings base named (family :: rest)) before after := by
  rw [datasetPlaces, List.filter_cons_of_pos (by simp [nonempty]), List.map_cons]
  exact (first.mono (List.cons_subset.mpr ⟨List.mem_cons_self, List.nil_subset _⟩)).trans
    (others.mono (List.subset_cons_self _ _))

/-- A folder in the place of a merged table does not keep the others from being written. -/
theorem blocked (nonempty : named family ≠ [])
    (stands : between.isFolder (settings.datasetFile family) = true)
    (first : OnlyWrites [(settings.datasetFile family).placeFrom base] before between)
    (others : MergesAll parser settings base named rest old new between after) :
    MergesAll parser settings base named (family :: rest) old new before after := by
  have still := others.writes.isFolder stands
  refine ⟨?_, writes_cons nonempty first others.writes, fun other member some free => ?_⟩
  · rw [List.filter_cons_of_neg (by simp [still])]
    exact others.datasets
  · rcases List.mem_cons.mp member with rfl | later
    · cases still.symm.trans free
    · exact others.merged other later some free

/-- **The merged table of a family is not undone by those of the others.** -/
theorem cons (rows : AreRows (named family)) (nonempty : named family ≠ [])
    (isNew : family ∉ rest) (start : before.workingFolder = base)
    (first : OnlyWrites [(settings.datasetFile family).placeFrom base] before between)
    {table : List (String × FeatureVector family.vocabulary)}
    (merged : MergedFrom parser settings between family (named family) table)
    (others : MergesAll parser settings base named rest
      (old.addDataset ⟨family, settings.datasetFile family, (named family).length⟩) new
      between after) :
    MergesAll parser settings base named (family :: rest) old new before after := by
  have kept : MergedFrom parser settings after family (named family) table := by
    refine mergedFrom_of_onlyWrites merged rows.plain others.writes
      avoidsArtifacts_datasetPlaces ?_
    rw [first.workingFolder, start]
    exact datasetPlace_notMem isNew
  refine ⟨?_, writes_cons nonempty first others.writes, fun other member some free => ?_⟩
  · have free := isFolder_of_read kept.content
    rw [others.datasets, List.filter_cons_of_pos (by simp [nonempty, free]), List.map_cons]
    exact List.append_assoc ..
  · rcases List.mem_cons.mp member with rfl | later
    · exact ⟨table, kept⟩
    · exact others.merged other later some free

end MergesAll

/-- **The tables of several families are merged**, one family after the other. -/
theorem mergeFamilies_spec {named : Family → List String} (rows : ∀ family, AreRows (named family))
    {families : List Family} (distinct : families.Nodup) :
    ∀ (report : BatchReport) (progress : Progress), progress.tree.workingFolder = base →
      (∀ family, report.outputs family = (named family).map (settings.tableFile family)) →
      (∀ family, Supplied parser settings progress.tree family (named family)) →
      MergesAll parser settings base named families report
        (families.foldlM (mergeFamily settings) report progress).1 progress.tree
        (families.foldlM (mergeFamily settings) report progress).2.tree := by
  induction families with
  | nil =>
    intro report progress _ _ _
    exact ⟨(List.append_nil _).symm, .refl _ _, fun family member => nomatch member⟩
  | cons family rest ih =>
    intro report progress start outputs supplied
    obtain ⟨isNew, distinctRest⟩ := List.nodup_cons.mp distinct
    rw [Step.foldlM_cons]
    by_cases nothing : named family = []
    · obtain ⟨told, same⟩ := @mergeFamily_of_none settings report family progress
        (by rw [outputs, nothing, List.map_nil])
      rw [same]
      exact .skip nothing (ih distinctRest report { progress with told := told } start outputs
        supplied)
    · have first := mergeFamily_writes settings report family base progress start
      have based := first.workingFolder.trans start
      have stillSupplied (other : Family) := supplied_of_merged (rows other) (supplied other) start
        first
      -- What stands in the place is known before the family is merged, and is reported as it is in
      -- the end: a folder is still there then, and so is a merged table, which is none.
      cases stands : progress.tree.isFolder (settings.datasetFile family) with
      | true =>
        have hasOutputs : report.outputs family ≠ [] := by
          rw [outputs]
          exact mt List.map_eq_nil_iff.mp nothing
        obtain ⟨after, ran⟩ := mergeFamily_of_folder hasOutputs stands
        rw [ran] at first based stillSupplied ⊢
        exact .blocked nothing (first.isFolder stands) first
          (ih distinctRest report after based outputs stillSupplied)
      | false =>
        obtain ⟨after, table, ran, merged⟩ := mergeFamily_run (rows family) nothing
          (outputs family) (supplied family) stands
        rw [ran] at first based stillSupplied ⊢
        exact .cons (rows family) nothing isNew start first merged
          (ih distinctRest _ after based outputs stillSupplied)

end Batch

end ApkFeatures
