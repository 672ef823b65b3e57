/-
**A table says what the vector in it holds.**

The header and the row of a table are joined apart from each other, from the names of the vocabulary
and from the values. If no name has a comma or a line feed in it, nor the identifier, both lines have
as many cells, and cell by cell they are the names and the values in decimal digits. So the text of a
table has the vector in it.

* `Text.decimal?`, `decimal?_toString` — the number in a cell.
* `Text.pairs` — the names in a line, each with the number below it.
* `cells_tableLine` — the cells of a line are those it was joined from.
* `splitOn_csv`, `lines_saved` — the two lines of a table.
* `pairs_csv` — their cells are the names and the values of the vector.
* `saveTable_decodes` — what is read back of a table that was saved.
-/
import ApkFeatures.Proofs.Report.Width

namespace ApkFeatures

/-! ### Cells -/

namespace Text

/-- The number in a cell, if there are digits in it and nothing else. -/
def decimal? (cell : List Char) : Option Nat :=
  if cell ≠ [] ∧ cell.all Char.isDigit = true then some (Nat.ofDigitChars 10 cell 0) else none

/-- The names in a line with the numbers in the same cells of another one, after some cells. -/
def pairs (skipped : Nat) (names numbers : List Char) : List (String × Option Nat) :=
  (((cells names).drop skipped).map String.ofList).zip
    (((cells numbers).drop skipped).map decimal?)

/-- **The digits of a number stand for the number.** -/
theorem decimal?_toString (number : Nat) : decimal? (toString number).toList = some number := by
  have digits : (toString number).toList = Nat.toDigits 10 number := Nat.toList_repr
  rw [digits, decimal?, if_pos, Nat.ofDigitChars_ten_toDigits]
  exact ⟨Nat.toDigits_ne_nil, List.all_eq_true.mpr fun c member =>
    Nat.isDigit_of_mem_toDigits (by decide) (by decide) member⟩

end Text

section Lines

variable {identifier? : Option String} {cells : List String}
  (fits : ∀ identifier ∈ identifier?, FitsCell identifier) (written : cells ≠ [])
  (plain : ∀ cell ∈ cells, FitsCell cell)

include written in
/-- An identifier is joined as one more cell. -/
theorem tableLine_eq (identifier? : Option String) :
    tableLine identifier? cells = ",".intercalate (identifier?.toList ++ cells) := by
  obtain ⟨first, rest, rfl⟩ := List.exists_cons_of_ne_nil written
  cases identifier? with
  | none => rfl
  | some identifier =>
    show _ = ",".intercalate (identifier :: first :: rest)
    rw [String.intercalate_cons_cons]
    rfl

include fits plain in
theorem fitsCell_of_mem : ∀ cell ∈ identifier?.toList ++ cells, FitsCell cell := by
  intro cell member
  rcases List.mem_append.mp member with identifies | inside
  · exact fits cell (Option.mem_toList.mp identifies)
  · exact plain cell inside

include fits written plain

/-- **The cells of a line are those that it was joined from.** -/
theorem cells_tableLine : Text.cells (tableLine identifier? cells).toList =
    (identifier?.toList ++ cells).map String.toList := by
  rw [tableLine_eq written]
  exact cells_intercalate (List.append_ne_nil_of_right_ne_nil _ written) fun cell member =>
    (fitsCell_of_mem fits plain cell member).1

/-- Joined cells are one line. -/
theorem tableLine_line : '\n' ∉ (tableLine identifier? cells).toList := by
  rw [tableLine_eq written]
  intro member
  rcases mem_intercalate member with comma | ⟨cell, inside, found⟩
  · cases comma
  · exact (fitsCell_of_mem fits plain cell inside).2 found

end Lines

namespace FeatureVector

variable {vocabulary : Vocabulary}

/-- The texts of the values. -/
def digits (features : FeatureVector vocabulary) : List String :=
  features.values.toList.map fun value => toString value.toNat

theorem length_digits (features : FeatureVector vocabulary) :
    features.digits.length = vocabulary.keys.length := by
  rw [digits, List.length_map, Vector.length_toList]
  rfl

theorem fitsCell_digits (features : FeatureVector vocabulary) :
    ∀ cell ∈ features.digits, FitsCell cell := by
  intro cell member
  obtain ⟨value, -, rfl⟩ := List.mem_map.mp member
  exact ⟨unseparated_number _, (printable_number _).line⟩

/-- **A vector is known from its names and values.** -/
theorem eq_of_toList {first second : FeatureVector vocabulary}
    (same : first.toList = second.toList) : first = second := by
  have values (features : FeatureVector vocabulary) :
      features.toList.map Prod.snd = features.values.toList := by
    refine List.map_snd_zip ?_
    rw [Vector.length_toList]
    exact Nat.le_refl _
  obtain ⟨one⟩ := first
  obtain ⟨other⟩ := second
  have columns := congrArg (List.map Prod.snd) same
  rw [values, values] at columns
  exact congrArg FeatureVector.mk (Vector.toList_inj.mp columns)

end FeatureVector

namespace Dataset

open FeatureVector

/-- The identifier fits in a cell, and its column does. -/
def FitsColumn (identifier? : Option Identifier) : Prop :=
  ∀ identifier ∈ identifier?, FitsCell identifier.column ∧ FitsCell identifier.value

section Tables

variable {vocabulary : Vocabulary} {features : FeatureVector vocabulary}
  {identifier? : Option Identifier} (columns : vocabulary.keys ≠ [])
  (plain : ∀ key ∈ vocabulary.keys, FitsCell key) (fits : FitsColumn identifier?)

/-- The first line of a table. -/
def headerOf (vocabulary : Vocabulary) (identifier? : Option Identifier) : List Char :=
  (vocabulary.header (identifier?.map Identifier.column)).toList

/-- The second line of a table. -/
def rowOf (features : FeatureVector vocabulary) (identifier? : Option Identifier) : List Char :=
  (features.row (identifier?.map Identifier.value)).toList

theorem csv_toList_eq (features : FeatureVector vocabulary) (identifier? : Option Identifier) :
    (features.csv identifier?).toList =
      headerOf vocabulary identifier? ++ '\n' :: (rowOf features identifier? ++ '\n' :: []) := by
  rw [FeatureVector.csv, String.toList_append, String.toList_append, String.toList_append,
    List.append_assoc, List.append_assoc]
  rfl

include fits in
theorem fitsCell_part {part : Identifier → String} (fitting : ∀ identifier : Identifier,
    FitsCell identifier.column ∧ FitsCell identifier.value → FitsCell (part identifier)) :
    ∀ cell ∈ identifier?.map part, FitsCell cell := by
  intro cell member
  obtain ⟨identifier, given, rfl⟩ := Option.map_eq_some_iff.mp member
  exact fitting identifier (fits identifier given)

include columns in
theorem digits_ne_nil (features : FeatureVector vocabulary) : features.digits ≠ [] := by
  rw [← List.length_pos_iff, features.length_digits]
  exact List.length_pos_iff.mpr columns

include columns plain fits

theorem cells_header : Text.cells (headerOf vocabulary identifier?) =
    ((identifier?.map Identifier.column).toList ++ vocabulary.keys).map String.toList :=
  cells_tableLine (fitsCell_part fits fun _ => And.left) columns plain

omit plain in
theorem cells_row (features : FeatureVector vocabulary) :
    Text.cells (rowOf features identifier?) =
      ((identifier?.map Identifier.value).toList ++ features.digits).map String.toList :=
  cells_tableLine (fitsCell_part fits fun _ => And.right) (digits_ne_nil columns features)
    features.fitsCell_digits

/-- **A table has two lines**, each ended by a line feed. -/
theorem splitOn_csv (features : FeatureVector vocabulary) :
    (features.csv identifier?).toList.splitOn '\n' =
      [headerOf vocabulary identifier?, rowOf features identifier?, []] := by
  have header : '\n' ∉ headerOf vocabulary identifier? :=
    tableLine_line (fitsCell_part fits fun _ => And.left) columns plain
  have row : '\n' ∉ rowOf features identifier? :=
    tableLine_line (fitsCell_part fits fun _ => And.right) (digits_ne_nil columns features)
      features.fitsCell_digits
  rw [csv_toList_eq, List.splitOn_append_cons_self, List.splitOn_append_cons_self,
    List.splitOn_eq_singleton header, List.splitOn_eq_singleton row]
  rfl

/-- **Cell by cell the two lines are the names and the values.** -/
theorem pairs_csv (features : FeatureVector vocabulary) :
    Text.pairs identifier?.toList.length (headerOf vocabulary identifier?)
        (rowOf features identifier?) =
      features.toList.map fun (key, value) => (key, some value.toNat) := by
  have skip (part : Identifier → String) (cells : List String) :
      (((identifier?.map part).toList ++ cells).map String.toList).drop identifier?.toList.length =
        cells.map String.toList := by
    cases identifier? <;> simp
  have names : (vocabulary.keys.map String.toList).map String.ofList = vocabulary.keys := by
    simp
  have numbers : (features.digits.map String.toList).map Text.decimal? =
      features.values.toList.map fun value => some value.toNat := by
    rw [digits, List.map_map, List.map_map]
    exact List.map_congr_left fun value _ => Text.decimal?_toString value.toNat
  rw [Text.pairs, cells_header columns plain fits, cells_row columns fits, skip, skip, names,
    numbers, List.zip_map_right]
  rfl

omit columns plain fits in
/-- The header ends in a carriage return only if a name has one. -/
theorem header_ending (unreturned : ∀ key ∈ vocabulary.keys, '\r' ∉ key.toList)
    (identifier? : Option Identifier) :
    (headerOf vocabulary identifier?).getLast? ≠ some '\r' := by
  have names : '\r' ∉ ',' :: (",".intercalate vocabulary.keys).toList := fun member => by
    rcases List.mem_cons.mp member with comma | inside
    · cases comma
    · rcases mem_intercalate inside with comma | ⟨key, known, found⟩
      · cases comma
      · exact unreturned key known found
  intro last
  cases identifier? with
  | none => exact names (List.mem_cons_of_mem _ (List.mem_of_getLast? last))
  | some identifier =>
    have written : headerOf vocabulary (some identifier) =
        identifier.column.toList ++ ',' :: (",".intercalate vocabulary.keys).toList := by
      show (identifier.column ++ "," ++ _).toList = _
      rw [String.toList_append, String.toList_append, List.append_assoc]
      rfl
    rw [written, List.getLast?_append_cons] at last
    exact names (List.mem_of_getLast? last)

/-- The lines of a table are these two, but for a carriage return that ends the last name. -/
theorem lines_of_csv (features : FeatureVector vocabulary) :
    Text.lines (features.csv identifier?).toList =
      [Text.withoutReturn (headerOf vocabulary identifier?), rowOf features identifier?] := by
  have pieces := splitOn_csv columns plain fits features
  have ending : (rowOf features identifier?).getLast? ≠ some '\r' :=
    (features.row_ending (mt List.length_eq_zero_iff.mp columns) _).2
  simp only [Text.lines, pieces, List.dropLast_cons_cons, List.dropLast_singleton, List.map_cons,
    List.map_nil, Text.withoutReturn_of_ending ending]
  rfl

/-- **Vectors with one text are the same**, whatever their identifiers are. -/
theorem eq_of_csv {other : FeatureVector vocabulary} {other? : Option Identifier}
    (otherFits : FitsColumn other?) (same : other.csv other? = features.csv identifier?) :
    other = features := by
  have pieces := splitOn_csv columns plain fits features
  rw [← same, splitOn_csv columns plain otherFits] at pieces
  obtain ⟨header, row⟩ : headerOf vocabulary other? = headerOf vocabulary identifier? ∧
      rowOf other other? = rowOf features identifier? := by simpa using pieces
  have width : other?.toList.length = identifier?.toList.length := by
    have cells := congrArg (fun line => (Text.cells line).length) header
    simp only [cells_header columns plain otherFits, cells_header columns plain fits,
      List.length_map, List.length_append, Nat.add_right_cancel_iff] at cells
    cases other? <;> cases identifier? <;> simp_all
  have named := pairs_csv columns plain otherFits other
  rw [header, row, width, pairs_csv columns plain fits features] at named
  have exact_values : Function.Injective fun (entry : String × UInt8) =>
      (entry.1, some entry.2.toNat) := by
    rintro ⟨key, value⟩ ⟨key', value'⟩ equal
    simpa [UInt8.toNat_inj] using equal
  exact eq_of_toList (List.map_injective_iff.mpr exact_values named.symm)

end Tables

/-- **What was saved is read**, wherever it was saved. -/
theorem read_of_saved {vocabulary : Vocabulary} {features : FeatureVector vocabulary}
    {identifier? : Option Identifier} {path : FilePath} {progress saved : Progress}
    (ran : (Analysis.saveTable features path identifier?).run progress = (.ok (), saved)) :
    saved.tree.read path = .ok (Text.encode (features.csv identifier?)) := by
  have writes {made reached : Progress}
      (written : (Trial.change (some (.createFile path)) (Step.whole (·.write path
        (Text.encode (features.csv identifier?))))).run made = (.ok (), reached)) :
      reached.tree.read path = .ok (Text.encode (features.csv identifier?)) := by
    rw [Trial.run_change, Step.whole] at written
    cases after : made.tree.write path (Text.encode (features.csv identifier?)) with
    | error fault =>
      rw [after] at written
      cases written
    | ok tree =>
      rw [after] at written
      cases written
      exact FileTree.read_of_write after
  rw [Analysis.saveTable] at ran
  cases parent : path.parent? with
  | none =>
    rw [parent] at ran
    exact writes ran
  | some folder =>
    simp only [parent, Trial.run_bind] at ran
    rcases made : (Trial.change (some (.createFolder folder)) (·.createFolders folder)).run progress
      with ⟨fault | done, between⟩
    · rw [made] at ran
      cases ran
    · rw [made] at ran
      exact writes ran

/-- **A table that was saved says what the vector in it holds.** Its text is two lines, each ended by
a line feed, and a reader of lines finds the same two, unless the last name ends in a carriage return.
Both lines have as many cells. The first cell is that of the identifier, if there is one; the others
are the names and the values of the vector, in its order and in decimal digits. A vector with the
same text is the same vector. -/
theorem saveTable_decodes {vocabulary : Vocabulary} (columns : vocabulary.keys ≠ [])
    (plain : ∀ key ∈ vocabulary.keys, FitsCell key) {identifier? : Option Identifier}
    (fits : FitsColumn identifier?) (features : FeatureVector vocabulary) {path : FilePath}
    {progress saved : Progress}
    (ran : (Analysis.saveTable features path identifier?).run progress = (.ok (), saved)) :
    ∃ (content : String) (header row : List Char),
      saved.tree.read path = .ok (Text.encode content) ∧
      content.toList.splitOn '\n' = [header, row, []] ∧
      Text.lines content.toList = [Text.withoutReturn header, row] ∧
      ((∀ key ∈ vocabulary.keys, '\r' ∉ key.toList) → Text.withoutReturn header = header) ∧
      (Text.cells header).length = (Text.cells row).length ∧
      (∀ identifier ∈ identifier?, (Text.cells header).head? = some identifier.column.toList ∧
        (Text.cells row).head? = some identifier.value.toList) ∧
      Text.pairs identifier?.toList.length header row =
        features.toList.map (fun (key, value) => (key, some value.toNat)) ∧
      ∀ (other : FeatureVector vocabulary) (other? : Option Identifier), FitsColumn other? →
        other.csv other? = content → other.values = features.values := by
  have header := cells_header columns plain fits
  have row := cells_row columns fits features
  refine ⟨features.csv identifier?, headerOf vocabulary identifier?, rowOf features identifier?,
    read_of_saved ran, splitOn_csv columns plain fits features,
    lines_of_csv columns plain fits features, fun unreturned => ?_, ?_, fun identifier given => ?_,
    pairs_csv columns plain fits features, fun other other? otherFits same =>
      congrArg values (eq_of_csv columns plain fits otherFits same)⟩
  · exact Text.withoutReturn_of_ending (header_ending unreturned identifier?)
  · rw [header, row, List.length_map, List.length_map, List.length_append, List.length_append,
      features.length_digits]
    cases identifier? <;> rfl
  · rw [header, row, Option.mem_def.mp given]
    exact ⟨rfl, rfl⟩

/-- Three names. -/
def threeNames : Vocabulary := ⟨["CAMERA", "INTERNET", "READ_SMS"]⟩

/-- The second name has the greatest value. -/
def secondGreatest : FeatureVector threeNames := (zero threeNames).set "INTERNET" 255

/-- A table with an identifier in a folder that has to be made. -/
theorem saveTable_decodes_sample :
    ∃ saved content header row,
      (Analysis.saveTable secondGreatest (.ofString "nested/app.csv") (some ⟨"name", "app"⟩)).run
        ⟨.empty, []⟩ = (.ok (), saved) ∧
      saved.tree.read (.ofString "nested/app.csv") = .ok (Text.encode content) ∧
      Text.lines content.toList = [header, row] ∧
      (Text.cells header).length = (Text.cells row).length ∧
      Text.pairs 1 header row =
        [("CAMERA", some 0), ("INTERNET", some 255), ("READ_SMS", some 0)] := by
  obtain ⟨saved, ran⟩ : ∃ saved, (Analysis.saveTable secondGreatest (.ofString "nested/app.csv")
      (some ⟨"name", "app"⟩)).run ⟨.empty, []⟩ = (.ok (), saved) := ⟨_, rfl⟩
  have plain : ∀ key ∈ threeNames.keys, FitsCell key ∧ '\r' ∉ key.toList := by
    unfold threeNames
    decide
  have fits : FitsColumn (some ⟨"name", "app"⟩) := by
    rintro _ ⟨⟩
    decide
  obtain ⟨content, header, row, read, -, lines, unreturned, width, -, cells, -⟩ :=
    saveTable_decodes (List.cons_ne_nil _ _) (fun key known => (plain key known).1) fits
      secondGreatest ran
  rw [unreturned fun key known => (plain key known).2] at lines
  exact ⟨saved, content, header, row, ran, read, lines, width, cells⟩

end Dataset

end ApkFeatures
