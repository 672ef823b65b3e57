/-
**How many cells the lines of a table have.**

Cells are joined by commas and lines are ended by line feeds, and nothing is quoted. So a table has
the width of its family as long as the name of the application has neither of the two characters in
it: the name is a cell of the row where the family has a column for it, and the name of the file is
one in a merged table.

* `Text.length_splitOn` — there is one piece more than separators.
* `IsTable` — all lines of a text have one width.
* `isTable_csv_iff` — which names leave a table of an application uniform.
* `isTable_merged` — a merged table of such names is uniform.
* `tables_width` — tables that are saved, and what they are merged into.
* `saveTable_comma` — a name with a comma in it.
-/
import ApkFeatures.Proofs.Application
import ApkFeatures.Proofs.Report.Repeats

namespace ApkFeatures

open FileTree

/-! ### Cells -/

namespace Text

theorem length_splitOn (separator : Char) (text : List Char) :
    (text.splitOn separator).length = text.count separator + 1 := by
  induction text with
  | nil => rfl
  | cons c rest ih =>
    rw [List.splitOn_cons_eq_if_modifyHead, List.count_cons]
    by_cases found : (c == separator) = true
    · rw [if_pos found, if_pos found, List.length_cons, ih]
    · rw [if_neg found, if_neg found, List.length_modifyHead, ih]

/-- A text that is ended has as many lines as line feeds. -/
theorem length_lines (text : List Char) :
    (lines (text ++ ['\n'])).length = text.count '\n' + 1 := by
  have pieces : (text ++ ['\n']).splitOn '\n' = text.splitOn '\n' ++ [[]] :=
    List.splitOn_append_cons_self text []
  simp only [lines, pieces, List.dropLast_concat, List.getLast?_concat, Option.getD_some,
    List.isEmpty_nil, if_true, List.append_nil, List.length_map, length_splitOn]

/-- The cells of a line. -/
def cells (line : List Char) : List (List Char) := line.splitOn ','

end Text

/-- **All lines of a text have one width**, and there is a number of them. -/
structure IsTable (width height : Nat) (content : String) : Prop where
  /-- The text has so many lines. -/
  length_lines : (Text.lines content.toList).length = height
  /-- Each of them has so many cells. -/
  length_cells : ∀ line ∈ Text.lines content.toList, (Text.cells line).length = width

/-- The text is in one cell wherever it stands in a table. -/
def FitsCell (text : String) : Prop := ',' ∉ text.toList ∧ '\n' ∉ text.toList

instance (text : String) : Decidable (FitsCell text) := inferInstanceAs (Decidable (_ ∧ _))

/-- The number of columns of the tables of a family. -/
def Family.columns (family : Family) : Nat :=
  family.vocabulary.keys.length + family.identifierColumn?.toList.length

/-- **Joined cells are the cells of the line**, if there is no comma in any. -/
theorem cells_intercalate {cells : List String} (written : cells ≠ [])
    (plain : ∀ cell ∈ cells, ',' ∉ cell.toList) :
    Text.cells (",".intercalate cells).toList = cells.map String.toList := by
  rw [Text.cells, String.toList_intercalate]
  refine List.splitOn_intercalate ',' (fun piece member => ?_) (mt List.map_eq_nil_iff.mp written)
  obtain ⟨cell, inside, rfl⟩ := List.mem_map.mp member
  exact plain cell inside

theorem commas_intercalate {cells : List String} (written : cells ≠ [])
    (plain : ∀ cell ∈ cells, ',' ∉ cell.toList) :
    (",".intercalate cells).toList.count ',' + 1 = cells.length := by
  rw [← Text.length_splitOn, ← @List.length_map _ _ cells String.toList,
    ← cells_intercalate written plain]
  rfl

/-- The identifier of a line adds its own commas, and the one after it. -/
theorem commas_tableLine {cells : List String} (written : cells ≠ [])
    (plain : ∀ cell ∈ cells, ',' ∉ cell.toList) (identifier? : Option String) :
    (tableLine identifier? cells).toList.count ',' + 1 =
      cells.length + identifier?.elim 0 fun identifier => identifier.toList.count ',' + 1 := by
  have values := commas_intercalate written plain
  cases identifier? with
  | none => exact values
  | some identifier =>
    have comma : ",".toList.count ',' = 1 := by decide
    rw [tableLine, String.toList_append, String.toList_append, List.count_append,
      List.count_append, comma]
    dsimp only [Option.elim_some]
    omega

theorem unseparated_number (number : Nat) : ',' ∉ (toString number).toList := by
  intro member
  have digit : ','.isDigit = true := by
    refine @Nat.isDigit_of_mem_toDigits 10 number ',' (by decide) (by decide) ?_
    rw [← Nat.toList_repr]
    exact member
  exact absurd digit (by decide)

namespace Dataset

variable {family : Family}

/-- The header has a comma between any two columns. -/
theorem commas_header (family : Family) :
    family.header.toList.count ',' + 1 = family.columns := by
  have written : family.vocabulary.keys ≠ [] := List.length_pos_iff.mp
    (Nat.pos_of_ne_zero (columns_ne_zero family))
  refine (commas_tableLine written family.unseparated_keys family.identifierColumn?).trans ?_
  refine congrArg (family.vocabulary.keys.length + ·) ?_
  cases family with
  | permissions => rfl
  | intents => rfl
  | sensitiveApis => decide

/-- A row has the commas of its header, and those of the name of the application if that is in it. -/
theorem commas_row (features : FeatureVector family.vocabulary) (name : String) :
    (features.row ((family.identifier? name).map Identifier.value)).toList.count ',' + 1 =
      family.columns + if family.identifierColumn? = none then 0 else name.toList.count ',' := by
  have width : (features.values.toList.map fun value => toString value.toNat).length =
      family.vocabulary.keys.length := by
    rw [List.length_map, Vector.length_toList]
    rfl
  have written : features.values.toList.map (fun value => toString value.toNat) ≠ [] := by
    rw [← List.length_pos_iff, width]
    exact Nat.pos_of_ne_zero (columns_ne_zero family)
  have commas := commas_tableLine written (by
    intro cell member
    obtain ⟨value, -, rfl⟩ := List.mem_map.mp member
    exact unseparated_number _) ((family.identifier? name).map Identifier.value)
  rw [width] at commas
  refine commas.trans ?_
  rw [Family.columns, Nat.add_assoc]
  refine congrArg (family.vocabulary.keys.length + ·) ?_
  cases family with
  | permissions => rfl
  | intents => rfl
  | sensitiveApis => exact Nat.add_comm _ 1

/-! ### Tables of applications -/

/-- The name is in the row of a family that has a column for it. -/
theorem mem_row_of_mem_name (features : FeatureVector family.vocabulary) {name : String} {c : Char}
    (named : family.identifierColumn? ≠ none) (inside : c ∈ name.toList) :
    c ∈ (features.row ((family.identifier? name).map Identifier.value)).toList := by
  cases family with
  | permissions => exact absurd rfl named
  | intents => exact absurd rfl named
  | sensitiveApis =>
    show c ∈ (name ++ "," ++ _).toList
    rw [String.toList_append, String.toList_append]
    exact List.mem_append_left _ (List.mem_append_left _ inside)

/-- A table has the two lines that were written exactly if no line feed is in its row. -/
theorem length_lines_csv_iff (features : FeatureVector family.vocabulary) (name : String) :
    (Text.lines (features.csv (family.identifier? name)).toList).length = 2 ↔
      '\n' ∉ (features.row ((family.identifier? name).map Identifier.value)).toList := by
  have inHeader := List.count_eq_zero.mpr family.printable_header.line
  rw [csv_toList, List.flatMap_cons, List.flatMap_cons, List.flatMap_nil, List.append_nil,
    ← List.append_assoc, Text.length_lines, List.count_append, List.count_append, inHeader,
    List.count_singleton_self, ← List.count_eq_zero]
  omega

/-- **The table of an application is uniform** exactly if its name fits in a cell, or is in none. -/
theorem isTable_csv_iff (features : FeatureVector family.vocabulary) (name : String) :
    IsTable family.columns 2 (features.csv (family.identifier? name)) ↔
      family.identifierColumn? = none ∨ FitsCell name := by
  have commas := commas_row features name
  constructor
  · intro table
    have oneLine := (length_lines_csv_iff features name).mp table.length_lines
    have width := table.length_cells
    rw [lines_csv_of_row features oneLine] at width
    have cells := width _ (List.mem_cons_of_mem _ List.mem_cons_self)
    rw [Text.cells, Text.length_splitOn, commas, Nat.add_eq_left] at cells
    refine or_iff_not_imp_left.mpr fun named => ⟨?_, fun feed => ?_⟩
    · rw [if_neg named] at cells
      exact List.count_eq_zero.mp cells
    · exact oneLine (mem_row_of_mem_name features named feed)
  · intro fits
    have lines := lines_csv_of_row features (row_line_of_name features (fits.imp_right And.right))
    have unseparated : (if family.identifierColumn? = none then 0 else name.toList.count ',') = 0 := by
      rcases fits with unnamed | ⟨noComma, -⟩
      · exact if_pos unnamed
      · rw [List.count_eq_zero.mpr noComma, ite_self]
    refine ⟨congrArg List.length lines, fun line member => ?_⟩
    rw [lines, List.mem_cons, List.mem_singleton] at member
    rw [Text.cells, Text.length_splitOn]
    rcases member with rfl | rfl
    · exact commas_header family
    · rw [commas, unseparated, Nat.add_zero]

/-! ### Merged tables -/

/-- The row of an application in a merged table: its own row, and the name of the file. -/
def rowIn (features : FeatureVector family.vocabulary) (name : String) : String :=
  features.row ((family.identifier? name).map Identifier.value) ++ "," ++ (name ++ ".csv")

theorem header_toList (family : Family) :
    (header family).toList = family.header.toList ++ ",filename".toList := by
  rw [header, fileColumn, String.toList_append, String.toList_append, List.append_assoc]
  rfl

theorem rowIn_toList (features : FeatureVector family.vocabulary) (name : String) :
    (rowIn features name).toList =
      (features.row ((family.identifier? name).map Identifier.value)).toList ++
        (',' :: name.toList ++ ".csv".toList) := by
  rw [rowIn, String.toList_append, String.toList_append, String.toList_append, List.append_assoc]
  rfl

/-- A text that ends with a written ending does not end in a carriage return. -/
theorem getLast?_append_ne {front ending : List Char} (written : ending ≠ [])
    (solid : ending.getLast? ≠ some '\r') : (front ++ ending).getLast? ≠ some '\r' := by
  rw [List.getLast?_append, List.getLast?_eq_some_getLast written, Option.some_or,
    ← List.getLast?_eq_some_getLast written]
  exact solid

/-- **A merged table is uniform** if the names of the applications in it fit in a cell. -/
theorem isTable_merged {rows : List String}
    (given : ∀ row ∈ rows, ∃ (name : String) (features : FeatureVector family.vocabulary),
      FitsCell name ∧ row = rowIn features name) :
    IsTable (family.columns + 1) (rows.length + 1) (merged family rows) := by
  have lines : Text.lines (merged family rows).toList =
      (header family :: rows).map String.toList := by
    have written : (merged family rows).toList =
        ((header family :: rows).map String.toList).flatMap (· ++ ['\n']) := by
      rw [merged, String.toList_join, List.flatMap_map, List.flatMap_map]
      refine congrArg (List.flatMap · _) (funext fun line => ?_)
      rw [String.toList_append]
      rfl
    rw [written]
    refine Text.lines_ended ?_ ?_
    all_goals
      intro line member
      obtain ⟨text, inside, rfl⟩ := List.mem_map.mp member
      rcases List.mem_cons.mp inside with rfl | inRows
    · rw [header_toList, List.mem_append, not_or]
      exact ⟨family.printable_header.line, by decide⟩
    · obtain ⟨name, features, ⟨-, line⟩, rfl⟩ := given _ inRows
      rw [rowIn_toList]
      simp [row_line_of_name features (.inr line), line]
    · rw [header_toList]
      exact getLast?_append_ne (by decide) (by decide)
    · obtain ⟨name, features, -, rfl⟩ := given _ inRows
      rw [rowIn_toList, ← List.append_assoc]
      exact getLast?_append_ne (by decide) (by decide)
  refine ⟨?_, fun line member => ?_⟩
  · rw [lines, List.length_map, List.length_cons]
  · rw [lines] at member
    obtain ⟨text, inside, rfl⟩ := List.mem_map.mp member
    rw [Text.cells, Text.length_splitOn]
    rcases List.mem_cons.mp inside with rfl | inRows
    · rw [header_toList, List.count_append, ← commas_header family]
      have comma : ",filename".toList.count ',' = 1 := by decide
      omega
    · obtain ⟨name, features, ⟨noComma, -⟩, rfl⟩ := given _ inRows
      have commas := commas_row features name
      rw [List.count_eq_zero.mpr noComma, ite_self] at commas
      have ending : ".csv".toList.count ',' = 0 := by decide
      rw [rowIn_toList, List.count_append, List.count_append, List.count_cons_self,
        List.count_eq_zero.mpr noComma, ending]
      omega

/-! ### Saved and merged -/

/-- A table of an application lies at a path, under the name of the application. -/
def HoldsTable (family : Family) (tree : FileTree) (path : FilePath) (name : String) : Prop :=
  path.fileName? = some (Text.encode (name ++ ".csv")) ∧
    ∃ features : FeatureVector family.vocabulary,
      tree.read path = .ok (Text.encode (features.csv (family.identifier? name)))

/-- **How wide the lines of tables are.** The table that is saved for an application has two lines of
the width of its family exactly if the name of the application fits in a cell, or the family has no
column for it. If the names of the applications fit, what their tables are merged into has the header
and a line for every row, each one cell wider. -/
theorem tables_width (settings : Settings) (family : Family) :
    (∀ (package : FilePath) (application : Application)
        (features : FeatureVector family.vocabulary) (progress saved : Progress),
      Application.ofPackage? package = some application →
      (Analysis.saveTable features (settings.tableFile family application.name)
        (family.identifier? application.name)).run progress = (.ok (), saved) →
      ∃ content, saved.tree.read (settings.tableFile family application.name) =
          .ok (Text.encode content) ∧
        (IsTable family.columns 2 content ↔
          family.identifierColumn? = none ∨ FitsCell application.name)) ∧
    ∀ (inputs : List FilePath) (output : FilePath) (progress : Progress)
      (parented emptied : FileTree),
      progress.tree.createParent output = (.ok (), parented) →
      parented.write output [] = .ok emptied →
      (∀ path ∈ inputs, path.placeFrom progress.tree.workingFolder ≠
          output.placeFrom progress.tree.workingFolder ∧
        ∃ name, FitsCell name ∧ HoldsTable family progress.tree path name) →
      ∃ dataset after content, (merge family inputs output).run progress = (.ok dataset, after) ∧
        after.tree.read output = .ok (Text.encode content) ∧
        IsTable (family.columns + 1) (dataset.rows + 1) content := by
  refine ⟨fun package application features progress saved made ran => ?_,
    fun inputs output progress parented emptied parent opened given => ?_⟩
  · have named := Settings.isName_tableName (Application.name_of_ofPackage? made).1
    exact ⟨_, Analysis.read_of_saveTable named ran, isTable_csv_iff features application.name⟩
  · obtain ⟨after, merges, content⟩ := merge_eq_ok parent opened family inputs
    refine ⟨_, after, _, merges, content, isTable_merged fun row member => ?_⟩
    obtain ⟨path, kept, found⟩ := List.mem_filterMap.mp member
    have isInput := (List.mergeSort_perm inputs _).mem_iff.mp (mem_of_mem_withoutRepeats kept)
    obtain ⟨elsewhere, name, fits, named, features, holds⟩ := given path isInput
    have still := (emptied_onlyWrites parent opened).read (mt List.mem_singleton.mp elsewhere) holds
    rw [rowAt?_of_csv features named fits.2 still] at found
    exact ⟨name, features, fits, (Option.some.inj found).symm⟩

/-- Saves the table of an application that calls no sensitive method. -/
def saveNothing (name : String) : Trial Unit :=
  Analysis.saveTable (.zero Family.sensitiveApis.vocabulary)
    (Settings.tableFile {} .sensitiveApis name) (Family.sensitiveApis.identifier? name)

/-- An application whose name fits, and two tables that are merged. -/
theorem tables_width_sample :
    (∃ application saved content,
      Application.ofPackage? (.ofString "apks/a.apk") = some application ∧
      (saveNothing application.name).run ⟨.empty, []⟩ = (.ok (), saved) ∧
      saved.tree.read (Settings.tableFile {} .sensitiveApis application.name) =
        .ok (Text.encode content) ∧
      IsTable Family.sensitiveApis.columns 2 content) ∧
    ∃ dataset after content, (merge .intents [firstTable, secondTable] mergedTable).run
        ⟨twoFolders, []⟩ = (.ok dataset, after) ∧
      after.tree.read mergedTable = .ok (Text.encode content) ∧
      IsTable (Family.intents.columns + 1) (dataset.rows + 1) content := by
  constructor
  · have made : Application.ofPackage? (.ofString "apks/a.apk") =
        some ⟨"a", .ofString "apks/a.apk"⟩ := by decide
    obtain ⟨saved, ran⟩ : ∃ saved, (saveNothing "a").run ⟨.empty, []⟩ = (.ok (), saved) := ⟨_, rfl⟩
    obtain ⟨content, there, width⟩ := (tables_width {} .sensitiveApis).1 _ _ _ _ saved made ran
    exact ⟨_, saved, content, made, ran, there, width.mpr (.inr ⟨by decide, by decide⟩)⟩
  · obtain ⟨emptied, opened⟩ := exists_emptied
    refine (tables_width {} .intents).2 _ _ ⟨twoFolders, []⟩ twoFolders emptied rfl opened ?_
    intro path member
    rw [List.mem_cons, List.mem_singleton] at member
    rcases member with rfl | rfl
    · exact ⟨by decide, "a", ⟨by decide, by decide⟩, by decide, .zero _, rfl⟩
    · exact ⟨by decide, "a", ⟨by decide, by decide⟩, by decide, .zero _, rfl⟩

/-- **The row of an application with a comma in its name is wider than its header.** -/
theorem saveTable_comma :
    ∃ application saved content,
      Application.ofPackage? (.ofString "apks/a,b.apk") = some application ∧
      (saveNothing application.name).run ⟨.empty, []⟩ = (.ok (), saved) ∧
      saved.tree.read (Settings.tableFile {} .sensitiveApis application.name) =
        .ok (Text.encode content) ∧
      ¬ IsTable Family.sensitiveApis.columns 2 content := by
  have made : Application.ofPackage? (.ofString "apks/a,b.apk") =
      some ⟨"a,b", .ofString "apks/a,b.apk"⟩ := by decide
  obtain ⟨saved, ran⟩ : ∃ saved, (saveNothing "a,b").run ⟨.empty, []⟩ = (.ok (), saved) := ⟨_, rfl⟩
  have named := Settings.isName_tableName (Application.name_of_ofPackage? made).1
  refine ⟨_, saved, _, made, ran, Analysis.read_of_saveTable named ran, fun table => ?_⟩
  rcases (isTable_csv_iff _ _).mp table with unnamed | ⟨noComma, -⟩
  · cases unnamed
  · exact noComma (by decide)

end Dataset

end ApkFeatures
