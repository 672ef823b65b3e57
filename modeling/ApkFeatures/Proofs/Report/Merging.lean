/-
**A merged table is made of the tables of its family.**

Tables are merged in the order of their file names, which differ from each other if the names of the
applications do. Every table that was written for an application gives one line; a merged table can
be written if there is a table of the family, unless a folder stands in its place.

* `Precedes`, `byFileName_tables` — the order of the tables.
* `withoutRepeats_tables` — no table is left out.
* `rowAt?`, `rowAt?_of_holds` — the line of a table that was written.
* `reaches_dataset` — where there is a table, a merged table can be reached.
* `merge_keeps`, `merge_rows`, `merge_run` — what merging leaves alone, and what it leaves behind.
-/
import ApkFeatures.Proofs.Analysis.Tables
import ApkFeatures.Proofs.Report.Table
import ApkFeatures.Proofs.Sorting
import Mathlib.Data.List.Basic

namespace ApkFeatures

open FilePath FileTree

variable {settings : Settings} {family : Family} {names : List String}

/-! ### Order -/

/-- The table of an application comes before that of another one, by the bytes of their names. -/
def Precedes (first second : String) : Prop :=
  Text.encode (first ++ ".csv") < Text.encode (second ++ ".csv")

/-- Names of applications in the order of their tables. -/
def byTable (names : List String) : List String :=
  names.mergeSort fun first second =>
    decide (Text.encode (first ++ ".csv") ≤ Text.encode (second ++ ".csv"))

theorem byTable_perm (names : List String) : (byTable names).Perm names := List.mergeSort_perm ..

/-- Different names come one strictly before the other. -/
theorem byTable_pairwise (distinct : names.Nodup) : (byTable names).Pairwise Precedes := by
  have sorted := pairwise_sorted (fun name => Text.encode (name ++ ".csv")) names
  have different : (byTable names).Pairwise (· ≠ ·) := (byTable_perm names).nodup_iff.mpr distinct
  refine (sorted.and different).imp fun {first second} ordered => ?_
  obtain ⟨before, apart⟩ := ordered
  refine (List.le_iff_lt_or_eq.mp before).resolve_right fun same => apart ?_
  rw [Text.encode_append, Text.encode_append, List.append_cancel_right_eq] at same
  exact Text.encode_inj.mp same

namespace Dataset

theorem fileName?_tableFile {name : String} (plain : IsPlain name) :
    (settings.tableFile family name).fileName? = some (Text.encode (name ++ ".csv")) :=
  fileName?_join (Settings.isName_tableName plain)

/-- **Tables are ordered by their names.** -/
theorem byFileName_tables (plain : ∀ name ∈ names, IsPlain name) :
    byFileName (names.map (settings.tableFile family)) =
      (byTable names).map (settings.tableFile family) := by
  refine (List.map_mergeSort fun first inside second also => ?_).symm
  rw [fileName?_tableFile (plain first inside), fileName?_tableFile (plain second also),
    decide_eq_decide, Option.toList_some, Option.toList_some, ← List.not_lt, ← List.not_lt,
    List.cons_lt_cons_iff]
  exact not_congr ⟨.inl, fun found => found.resolve_right fun both => List.not_lt_nil [] both.2⟩

theorem withoutRepeats_of_pairwise {paths : List FilePath}
    (apart : paths.Pairwise fun first second => first.same second = false) :
    withoutRepeats paths = paths := by
  induction paths with
  | nil => rw [withoutRepeats]
  | cons first rest ih =>
    cases rest with
    | nil => rw [withoutRepeats]
    | cons second others =>
      obtain ⟨differs, later⟩ := List.pairwise_cons.mp apart
      rw [withoutRepeats, differs second List.mem_cons_self, if_neg Bool.false_ne_true, ih later]

/-- No path is added. -/
theorem mem_of_mem_withoutRepeats {paths : List FilePath} {path : FilePath} :
    path ∈ withoutRepeats paths → path ∈ paths := by
  fun_induction withoutRepeats paths with
  | case1 => exact id
  | case2 only => exact id
  | case3 first second rest repeated ih =>
    intro member
    rcases List.mem_cons.mp (ih member) with isFirst | further
    · exact isFirst ▸ List.mem_cons_self
    · exact List.mem_cons_of_mem _ (List.mem_cons_of_mem _ further)
  | case4 first second rest different ih =>
    intro member
    rcases List.mem_cons.mp member with isFirst | further
    · exact isFirst ▸ List.mem_cons_self
    · exact List.mem_cons_of_mem _ (ih further)

/-- Only inputs are read. -/
theorem mem_inputs_of_mem {inputs : List FilePath} {path : FilePath}
    (member : path ∈ withoutRepeats (byFileName inputs)) : path ∈ inputs :=
  (List.mergeSort_perm inputs _).mem_iff.mp (mem_of_mem_withoutRepeats member)

/-- Tables with different names are all kept. -/
theorem withoutRepeats_tables (plain : ∀ name ∈ names, IsPlain name) (distinct : names.Nodup) :
    withoutRepeats (names.map (settings.tableFile family)) =
      names.map (settings.tableFile family) := by
  refine withoutRepeats_of_pairwise (List.pairwise_map.mpr ?_)
  refine distinct.imp_of_mem fun {first second} inside also apart => decide_eq_false fun same => ?_
  have fileNames : (settings.tableFile family first).fileName? =
      (settings.tableFile family second).fileName? := by
    rw [fileName?, same, fileName?]
  rw [fileName?_tableFile (plain first inside), fileName?_tableFile (plain second also),
    Option.some_inj, Text.encode_append, Text.encode_append,
    List.append_cancel_right_eq] at fileNames
  exact apart (Text.encode_inj.mp fileNames)

/-! ### Lines -/

/-- The line of an application in a merged table, from its features. -/
def line (family : Family) (entry : String × FeatureVector family.vocabulary) : String :=
  entry.2.row ((family.identifier? entry.1).map Identifier.value) ++ "," ++ entry.1 ++ ".csv\n"

/-- The merged table of some applications, from their features. -/
def text (family : Family) (table : List (String × FeatureVector family.vocabulary)) : String :=
  family.header ++ ",filename\n" ++ String.join (table.map (line family))

theorem merged_eq_text (table : List (String × FeatureVector family.vocabulary)) :
    merged family (table.map fun entry =>
      entry.2.row ((family.identifier? entry.1).map Identifier.value) ++ "," ++
        (entry.1 ++ ".csv")) = text family table := by
  rw [merged, text, List.map_cons, List.map_map, String.join_cons, header, fileColumn]
  congr 1
  · simp only [String.append_assoc]
    rfl
  · refine congrArg String.join (List.map_congr_left fun entry _ => ?_)
    simp only [Function.comp, line, String.append_assoc]
    rfl

/-- The table of an application has the features of the entry in it. -/
def Holds (settings : Settings) (tree : FileTree) (family : Family)
    (entry : String × FeatureVector family.vocabulary) : Prop :=
  tree.read (settings.tableFile family entry.1) =
    .ok (Text.encode (entry.2.csv (family.identifier? entry.1)))

/-- The line of a merged table for the table at a path, if there is one. -/
def rowAt? (family : Family) (tree : FileTree) (path : FilePath) : Option String := do
  let name ← path.fileName?.bind Text.decode?
  let content ← (tree.readText path).toOption
  let row ← row? family content
  return row ++ "," ++ name

/-- A line is read and nothing is written. -/
theorem mergedRow?_reads (family : Family) (path : FilePath) (progress : Progress) :
    ∃ told, mergedRow? family path progress =
      (rowAt? family progress.tree path, { progress with told := told }) := by
  rw [mergedRow?, rowAt?]
  cases path.fileName?.bind Text.decode? with
  | none => exact ⟨progress.told, rfl⟩
  | some name =>
    dsimp only
    rw [Step.bind_apply, Step.ask_apply]
    cases progress.tree.readText path with
    | error fault => exact ⟨_, rfl⟩
    | ok content =>
      dsimp only
      simp only [Option.bind_eq_bind, Option.bind_some, Except.toOption]
      cases row? family content <;> exact ⟨_, rfl⟩

/-- The line is made of the content of the file. -/
theorem rowAt?_congr {tree other : FileTree} {path : FilePath}
    (same : other.read path = tree.read path) : rowAt? family other path = rowAt? family tree path := by
  rw [rowAt?, readText, same, rowAt?, readText]

/-- **The line of a table of features is their row**, with the name of the file. -/
theorem rowAt?_of_csv {tree : FileTree} {path : FilePath} {fileName name : String}
    (features : FeatureVector family.vocabulary) (named : path.fileName? = some (Text.encode fileName))
    (oneLine : '\n' ∉ name.toList)
    (holds : tree.read path = .ok (Text.encode (features.csv (family.identifier? name)))) :
    rowAt? family tree path =
      some (features.row ((family.identifier? name).map Identifier.value) ++ "," ++ fileName) := by
  rw [rowAt?, named, Option.bind_some, Text.decode?_encode, readText_eq_ok_iff.mpr holds]
  simp only [Option.bind_eq_bind, Option.bind_some, Except.toOption, row?_csv features oneLine]
  rfl

/-- **The line of a table that was written is that of its features.** -/
theorem rowAt?_of_holds {tree : FileTree} {entry : String × FeatureVector family.vocabulary}
    (plain : IsPlain entry.1) (oneLine : '\n' ∉ entry.1.toList)
    (holds : Holds settings tree family entry) :
    rowAt? family tree (settings.tableFile family entry.1) =
      some (entry.2.row ((family.identifier? entry.1).map Identifier.value) ++ "," ++
        (entry.1 ++ ".csv")) :=
  rowAt?_of_csv entry.2 (fileName?_tableFile plain) oneLine holds

/-! ### Where a merged table lies -/

/-- A name in a folder whose path does not end in a slash is written after one. -/
theorem join_bytes_of_unslashed {folder : FilePath} {name : Bytes} (written : folder.bytes ≠ [])
    (solid : isSlashed folder = false) (unslashed : slash ∉ name) :
    (folder.join ⟨name⟩).bytes = folder.bytes ++ slash :: name := by
  rw [join, isAbsolute_of_unslashed unslashed, Bool.false_or,
    if_neg (mt List.isEmpty_iff.mp written), if_neg (of_decide_eq_false solid)]

/-- The folder of all results is there where that of a family is. -/
theorem exists_opens_of_familyFolder {tree : FileTree} {place : Location}
    (opens : tree.Opens (settings.familyFolder family) place) :
    ∃ place, tree.Opens settings.resultsFolder place := by
  have folderNamed := family.isName_folderName
  have segments : (settings.familyFolder family).segments =
      settings.resultsFolder.inside ++ [Text.encode family.folderName] :=
    segments_join folderNamed.unslashed
  have followed := opens.followed
  rw [segments, follow_append] at followed
  obtain ⟨place, toPlace, last⟩ := followed
  have origin := @origin_join settings.resultsFolder _ folderNamed.unslashed tree.workingFolder
  exact ⟨place, opens_iff.mpr ⟨origin ▸ toPlace, (follow_cons.mp last).1⟩⟩

/-- The path of a merged table can be used where that of a table can: it is not longer. -/
theorem isUsable_datasetFile {name : String} (plain : IsPlain name) (nonempty : name ≠ "")
    (usable : (settings.tableFile family name).IsUsable) :
    (settings.datasetFile family).IsUsable := by
  have folderNamed := family.isName_folderName
  have datasetNamed := family.isName_datasetName
  obtain ⟨front, bytes⟩ := join_bytes settings.resultsFolder
  have folderBytes : (settings.familyFolder family).bytes =
      front ++ Text.encode family.folderName := bytes folderNamed.unslashed
  have datasetBytes : (settings.datasetFile family).bytes =
      front ++ Text.encode family.datasetName := bytes datasetNamed.unslashed
  have tableBytes : (settings.tableFile family name).bytes =
      front ++ Text.encode family.folderName ++ slash :: Text.encode (name ++ ".csv") := by
    rw [← folderBytes]
    refine join_bytes_of_unslashed ?_ (isSlashed_join folderNamed)
      (Settings.isName_tableName plain).unslashed
    rw [folderBytes]
    exact List.append_ne_nil_of_right_ne_nil front folderNamed.ne_nil
  have unbroken := usable.unbroken
  have short := usable.short
  rw [tableBytes] at unbroken short
  refine ⟨?_, ?_, ?_⟩
  · rw [datasetBytes, List.mem_append, not_or]
    exact ⟨fun inFront => unbroken (List.mem_append_left _ (List.mem_append_left _ inFront)),
      by cases family <;> decide⟩
  · rw [datasetBytes]
    exact List.append_ne_nil_of_right_ne_nil front datasetNamed.ne_nil
  · -- The name of the application is at least as long as what `merged` has more than `data`.
    have filled : 0 < (Text.encode name).length := List.length_pos_iff.mpr fun empty =>
      nonempty (Text.encode_inj.mp empty)
    have longer : (Text.encode family.datasetName).length =
        (Text.encode family.folderName).length + 6 := by
      cases family <;> decide
    rw [List.length_append, List.length_append, List.length_cons, Text.encode_append,
      List.length_append, show (Text.encode ".csv").length = 4 from rfl] at short
    rw [datasetBytes, List.length_append, longer]
    omega

/-- **Where the table of an application can be read, a merged table can be reached.** -/
theorem reaches_dataset {tree : FileTree} {name : String} {content : Bytes}
    (plain : IsPlain name) (nonempty : name ≠ "")
    (given : tree.read (settings.tableFile family name) = .ok content) :
    ∃ place, tree.Reaches settings.resultsFolder (Text.encode family.datasetName) place := by
  obtain ⟨found, executable, there⟩ := read_eq_ok_iff.mp given
  obtain ⟨located, -⟩ := find?_eq_ok_iff.mp there
  obtain ⟨inFamily, reached, -⟩ := (locate_join_iff (Settings.isName_tableName plain)).mp located
  obtain ⟨place, opens⟩ := exists_opens_of_familyFolder reached.opens
  have short : (Text.encode family.datasetName).length ≤ longestName := by cases family <;> decide
  exact ⟨place, isUsable_datasetFile plain nonempty reached.usable, opens, short⟩

/-! ### Merging -/

/-- **Merging only makes the merged table**, whether it succeeds or not. -/
theorem merge_keeps {relation : FileTree → FileTree → Prop} [IsFrame relation] {output : FilePath}
    (covers : Covers relation output) (family : Family) (inputs : List FilePath) :
    Trial.Keeps relation (merge family inputs output) := by
  refine (Trial.Keeps.createParent covers _).bind fun _ => ?_
  refine (Trial.Keeps.write covers _ _).bind fun _ => ?_
  refine Trial.Keeps.bind (.filterMapM fun path _ => .of (.of_tree fun progress => ?_)) fun rows => ?_
  · obtain ⟨told, read⟩ := mergedRow?_reads family path progress
    rw [read]
  · exact (Trial.Keeps.write covers _ _).bind fun _ => .pure _

theorem merge_writes (family : Family) (inputs : List FilePath) (base : Location) :
    Trial.Keeps (Writing base [(settings.datasetFile family).placeFrom base])
      (merge family inputs (settings.datasetFile family)) :=
  merge_keeps (covers_writing family.isName_datasetName base) family inputs

section Emptied

variable {output : FilePath} {progress : Progress} {parented emptied : FileTree}
  (parent : progress.tree.createParent output = (.ok (), parented))
  (opened : parented.write output [] = .ok emptied)

include parent opened

/-- Nothing but the output is written before the inputs are read. -/
theorem emptied_onlyWrites :
    OnlyWrites [output.placeFrom progress.tree.workingFolder] progress.tree emptied := by
  have made := createParent_onlyWrites progress.tree output
  rw [parent] at made
  have written := write_onlyWrites opened
  rw [made.workingFolder] at written
  exact (made.mono (List.nil_subset _)).trans written

/-- What merging does once the output could be emptied. -/
theorem merge_run_emptied (family : Family) (inputs : List FilePath) :
    let rows := (withoutRepeats (byFileName inputs)).filterMap (rowAt? family emptied)
    ∃ filled told, emptied.write output (Text.encode (merged family rows)) = .ok filled ∧
      (merge family inputs output).run progress =
        (.ok ⟨family, output, rows.length⟩, ⟨filled, told⟩) := by
  intro rows
  obtain ⟨told, read⟩ := @Trial.run_filterMapM _ _ (fun path => Trial.of (mergedRow? family path))
    (rowAt? family) (fun path progress => by
      obtain ⟨told, read⟩ := mergedRow?_reads family path progress
      exact ⟨told, by rw [Trial.run_of, read]⟩)
    (withoutRepeats (byFileName inputs)) ⟨emptied, progress.told⟩
  obtain ⟨filled, written⟩ := write_again opened (Text.encode (merged family rows))
  refine ⟨filled, told, written, ?_⟩
  rw [merge, Trial.run_bind, Trial.run_change, parent, Trial.run_settle_ok]
  dsimp only
  rw [Trial.run_bind, Trial.run_change, Step.whole, opened, Trial.run_settle_ok]
  dsimp only
  rw [Trial.run_bind, read]
  dsimp only
  rw [Trial.run_bind, Trial.run_change, Step.whole, written, Trial.run_settle_ok]
  rfl

/-- **Merging succeeds once the output could be emptied**, and leaves the lines of the inputs that
are kept, as they are found then. -/
theorem merge_eq_ok (family : Family) (inputs : List FilePath) :
    let rows := (withoutRepeats (byFileName inputs)).filterMap (rowAt? family emptied)
    ∃ after, (merge family inputs output).run progress = (.ok ⟨family, output, rows.length⟩, after) ∧
      after.tree.read output = .ok (Text.encode (merged family rows)) := by
  intro rows
  obtain ⟨filled, told, written, ran⟩ := merge_run_emptied parent opened family inputs
  exact ⟨⟨filled, told⟩, ran, read_of_write written⟩

end Emptied

section Merged

variable {inputs : List FilePath} {progress : Progress} {place : Location}
  (reached : progress.tree.Reaches settings.resultsFolder (Text.encode family.datasetName) place)
  (free : progress.tree.isFolder (settings.datasetFile family) = false)

include reached free

/-- **Merging leaves the lines of the tables that can be read**, if the merged table can be written
at all. -/
theorem merge_rows
    (given : ∀ path ∈ withoutRepeats (byFileName inputs),
      (∃ content, progress.tree.read path = .ok content) ∧
        path.placeFrom progress.tree.workingFolder ≠
          (settings.datasetFile family).placeFrom progress.tree.workingFolder) :
    let rows := (withoutRepeats (byFileName inputs)).filterMap (rowAt? family progress.tree)
    ∃ after, (merge family inputs (settings.datasetFile family)).run progress =
        (.ok ⟨family, settings.datasetFile family, rows.length⟩, after) ∧
      after.tree.read (settings.datasetFile family) = .ok (Text.encode (merged family rows)) := by
  have named := family.isName_datasetName
  obtain ⟨emptied, made⟩ := write_join_of_reaches named reached free []
  -- The merged table is emptied before the tables are read; they lie elsewhere.
  have only := write_join_onlyWrites named made
  have kept : (withoutRepeats (byFileName inputs)).filterMap (rowAt? family emptied) =
      (withoutRepeats (byFileName inputs)).filterMap (rowAt? family progress.tree) := by
    refine List.filterMap_congr fun path member => ?_
    obtain ⟨⟨content, read⟩, elsewhere⟩ := given path member
    have still := only.read (mt List.mem_singleton.mp elsewhere) read
    exact rowAt?_congr (still.trans read.symm)
  have merges := merge_eq_ok (createParent_join named reached) made family inputs
  rw [kept] at merges
  exact merges

/-- **Merging tables that hold features leaves the merged table of these features**, if it can be
written at all. -/
theorem merge_run {table : List (String × FeatureVector family.vocabulary)}
    (ordered : withoutRepeats (byFileName inputs) =
      table.map fun entry => settings.tableFile family entry.1)
    (plain : ∀ entry ∈ table, IsPlain entry.1) (oneLine : ∀ entry ∈ table, '\n' ∉ entry.1.toList)
    (holds : ∀ entry ∈ table, Holds settings progress.tree family entry) :
    ∃ after, (merge family inputs (settings.datasetFile family)).run progress =
        (.ok ⟨family, settings.datasetFile family, table.length⟩, after) ∧
      after.tree.read (settings.datasetFile family) = .ok (Text.encode (text family table)) := by
  have rows : (withoutRepeats (byFileName inputs)).filterMap (rowAt? family progress.tree) =
      table.map fun entry => entry.2.row ((family.identifier? entry.1).map Identifier.value) ++
        "," ++ (entry.1 ++ ".csv") := by
    rw [ordered, List.filterMap_map, ← List.filterMap_eq_map]
    exact List.filterMap_congr fun entry member =>
      rowAt?_of_holds (plain entry member) (oneLine entry member) (holds entry member)
  obtain ⟨after, merged, content⟩ := @merge_rows settings family inputs progress place reached free
    fun path member => by
      obtain ⟨entry, inTable, rfl⟩ := List.mem_map.mp (ordered ▸ member)
      exact ⟨⟨_, holds entry inTable⟩, Settings.tablePlace_ne_datasetPlace (plain entry inTable)⟩
  rw [rows] at merged content
  rw [List.length_map] at merged
  rw [merged_eq_text] at content
  exact ⟨after, merged, content⟩

end Merged

/-- Where a folder stands no merged table can be written. -/
theorem merge_of_folder {progress : Progress} (inputs : List FilePath)
    (stands : progress.tree.isFolder (settings.datasetFile family) = true) :
    ∃ failure after, (merge family inputs (settings.datasetFile family)).run progress =
      (.error failure, after) := by
  have only := createParent_onlyWrites progress.tree (settings.datasetFile family)
  obtain ⟨fault, refused⟩ : ∃ fault,
      (progress.tree.createParent (settings.datasetFile family)).2.write
        (settings.datasetFile family) [] = .error fault :=
    write_join_of_isFolder family.isName_datasetName (only.isFolder stands) []
  rw [merge, Trial.run_bind, Trial.run_change]
  cases (progress.tree.createParent (settings.datasetFile family)).1 with
  | error fault => exact ⟨_, _, rfl⟩
  | ok done =>
    rw [Trial.run_settle_ok]
    dsimp only
    rw [Trial.run_bind, Trial.run_change, Step.whole, refused]
    exact ⟨_, _, rfl⟩

end Dataset

end ApkFeatures
