/-
**A table that was written is valid.**

The reader of tables takes the first two lines of a text. Of the text that is written for the
features of an application they are the header of the family and the row of the features, as long as
the name of the application is on one line.

* `Text.lines_ended` — the lines of a text that is made of lines.
* `row_line`, `row_ending` — the row is one line and does not end in a carriage return.
* `Dataset.row?_csv` — what is read of a table is the row that was written.
-/
import ApkFeatures.Proofs.Vocabulary
import ApkFeatures.Report.Dataset

namespace ApkFeatures

namespace Text

theorem withoutReturn_of_ending {line : List Char} (ending : line.getLast? ≠ some '\r') :
    withoutReturn line = line := if_neg ending

/-- A line that is ended comes before the lines of the rest. -/
theorem lines_cons {line rest : List Char} (oneLine : '\n' ∉ line) :
    lines (line ++ '\n' :: rest) = withoutReturn line :: lines rest := by
  obtain ⟨first, others, pieces⟩ := List.exists_cons_of_ne_nil (List.splitOn_ne_nil '\n' rest)
  unfold lines
  rw [List.splitOn_append_cons_self, List.splitOn_eq_singleton oneLine, pieces]
  rfl

/-- **Lines that are ended are the lines of the text.** -/
theorem lines_ended {given : List (List Char)} (oneLine : ∀ line ∈ given, '\n' ∉ line)
    (ending : ∀ line ∈ given, line.getLast? ≠ some '\r') :
    lines (given.flatMap (· ++ ['\n'])) = given := by
  induction given with
  | nil => rfl
  | cons line others ih =>
    rw [List.flatMap_cons, List.append_assoc, List.singleton_append,
      lines_cons (oneLine line List.mem_cons_self),
      withoutReturn_of_ending (ending line List.mem_cons_self),
      ih (fun later member => oneLine later (List.mem_cons_of_mem _ member))
        fun later member => ending later (List.mem_cons_of_mem _ member)]

end Text

/-! ### Rows -/

theorem IsPrintable.line {text : String} (printable : IsPrintable text) : '\n' ∉ text.toList :=
  fun member => absurd (printable '\n' member) (by decide)

theorem IsPrintable.ending {text : String} (printable : IsPrintable text) :
    text.toList.getLast? ≠ some '\r' :=
  fun last => absurd (printable '\r' (List.mem_of_getLast? last)) (by decide)

theorem printable_number (number : Nat) : IsPrintable (toString number) := by
  intro c member
  have digit : c.isDigit = true := by
    refine @Nat.isDigit_of_mem_toDigits 10 number c (by decide) (by decide) ?_
    rw [← Nat.toList_repr]
    exact member
  simp only [Char.isDigit, Bool.and_eq_true, decide_eq_true_eq] at digit
  exact Nat.le_trans (by decide) (UInt32.le_iff_toNat_le.mp digit.1)

namespace FeatureVector

variable {vocabulary : Vocabulary} (features : FeatureVector vocabulary)

/-- The values of a row, without an identifier. -/
theorem printable_values : IsPrintable (features.row none) := by
  refine printable_intercalate fun cell member => ?_
  obtain ⟨value, -, rfl⟩ := List.mem_map.mp member
  exact printable_number value.toNat

theorem values_ne_nil (columns : vocabulary.size ≠ 0) : (features.row none).toList ≠ [] := by
  have width : (features.values.toList.map fun value => toString value.toNat).length ≠ 0 := by
    rw [List.length_map, Vector.length_toList]
    exact columns
  show (",".intercalate _).toList ≠ []
  cases cells : features.values.toList.map fun value => toString value.toNat with
  | nil =>
    rw [cells] at width
    exact absurd rfl width
  | cons first others =>
    have inside : first ∈ features.values.toList.map fun value => toString value.toNat := by
      rw [cells]
      exact List.mem_cons_self
    obtain ⟨value, -, rfl⟩ := List.mem_map.mp inside
    have digits : (toString value.toNat).toList ≠ [] := by
      show (Nat.repr value.toNat).toList ≠ []
      rw [Nat.toList_repr]
      exact Nat.toDigits_ne_nil
    cases others with
    | nil =>
      rw [String.intercalate_singleton]
      exact digits
    | cons second rest =>
      rw [String.intercalate_cons_cons, String.toList_append, String.toList_append]
      exact List.append_ne_nil_of_left_ne_nil (List.append_ne_nil_of_left_ne_nil digits _) _

/-- A row ends with its values. -/
theorem row_toList (identifier? : Option String) :
    ∃ front, (features.row identifier?).toList = front ++ (features.row none).toList ∧
      ∀ c ∈ front, c = ',' ∨ ∃ identifier ∈ identifier?, c ∈ identifier.toList := by
  cases identifier? with
  | none => exact ⟨[], rfl, fun c member => nomatch member⟩
  | some identifier =>
    refine ⟨(identifier ++ ",").toList, ?_, fun c member => ?_⟩
    · rw [← String.toList_append]
      rfl
    · rw [String.toList_append, List.mem_append] at member
      rcases member with inside | comma
      · exact .inr ⟨identifier, rfl, inside⟩
      · exact .inl (List.mem_singleton.mp comma)

/-- **A row is one line** if its identifier is. -/
theorem row_line {identifier? : Option String}
    (line : ∀ identifier ∈ identifier?, '\n' ∉ identifier.toList) :
    '\n' ∉ (features.row identifier?).toList := by
  obtain ⟨front, written, sources⟩ := features.row_toList identifier?
  rw [written, List.mem_append, not_or]
  refine ⟨fun member => ?_, features.printable_values.line⟩
  rcases sources '\n' member with comma | ⟨identifier, given, inside⟩
  · cases comma
  · exact line identifier given inside

/-- A row ends as its values do. -/
theorem row_ending (columns : vocabulary.size ≠ 0) (identifier? : Option String) :
    (features.row identifier?).toList ≠ [] ∧
      (features.row identifier?).toList.getLast? ≠ some '\r' := by
  obtain ⟨front, written, -⟩ := features.row_toList identifier?
  have filled := features.values_ne_nil columns
  refine ⟨?_, ?_⟩
  · rw [written]
    exact List.append_ne_nil_of_right_ne_nil front filled
  · rw [written, List.getLast?_append, List.getLast?_eq_some_getLast filled, Option.some_or,
      ← List.getLast?_eq_some_getLast filled]
    exact features.printable_values.ending

end FeatureVector

namespace Dataset

theorem columns_ne_zero (family : Family) : family.vocabulary.size ≠ 0 := by
  cases family <;> exact mt List.length_eq_zero_iff.mp (List.cons_ne_nil _ _)

/-- A table is its header and its row, each ended. -/
theorem csv_toList {family : Family} (features : FeatureVector family.vocabulary) (name : String) :
    (features.csv (family.identifier? name)).toList = [family.header.toList,
      (features.row ((family.identifier? name).map Identifier.value)).toList].flatMap
        (· ++ ['\n']) := by
  have column : (family.identifier? name).map Identifier.column = family.identifierColumn? := by
    cases family <;> rfl
  rw [FeatureVector.csv, column, String.toList_append, String.toList_append, String.toList_append]
  simp only [List.flatMap_cons, List.flatMap_nil, List.append_nil, List.append_assoc]
  rfl

/-- **The lines of a table are its header and its row**, if the row is one line. -/
theorem lines_csv_of_row {family : Family} (features : FeatureVector family.vocabulary)
    {name : String}
    (oneLine : '\n' ∉ (features.row ((family.identifier? name).map Identifier.value)).toList) :
    Text.lines (features.csv (family.identifier? name)).toList = [family.header.toList,
      (features.row ((family.identifier? name).map Identifier.value)).toList] := by
  obtain ⟨-, ending⟩ := features.row_ending (columns_ne_zero family)
    ((family.identifier? name).map Identifier.value)
  rw [csv_toList]
  exact Text.lines_ended (by simp [family.printable_header.line, oneLine])
    (by simp [family.printable_header.ending, ending])

/-- The row is one line if the name is, or is not in it. -/
theorem row_line_of_name {family : Family} (features : FeatureVector family.vocabulary)
    {name : String} (line : family.identifierColumn? = none ∨ '\n' ∉ name.toList) :
    '\n' ∉ (features.row ((family.identifier? name).map Identifier.value)).toList := by
  refine features.row_line fun identifier given => ?_
  cases family with
  | permissions => cases given
  | intents => cases given
  | sensitiveApis =>
    cases given
    exact line.resolve_left (by decide)

theorem lines_csv {family : Family} (features : FeatureVector family.vocabulary) {name : String}
    (line : '\n' ∉ name.toList) :
    Text.lines (features.csv (family.identifier? name)).toList = [family.header.toList,
      (features.row ((family.identifier? name).map Identifier.value)).toList] :=
  lines_csv_of_row features (row_line_of_name features (.inr line))

/-- **What is read of a table is the row that was written.** -/
theorem row?_csv {family : Family} (features : FeatureVector family.vocabulary) {name : String}
    (line : '\n' ∉ name.toList) :
    row? family (features.csv (family.identifier? name)) =
      some (features.row ((family.identifier? name).map Identifier.value)) := by
  obtain ⟨filled, -⟩ := features.row_ending (columns_ne_zero family)
    ((family.identifier? name).map Identifier.value)
  rw [row?, lines_csv features line]
  simp only [String.ofList_toList, filled, ne_eq, not_false_eq_true, and_self, if_true]

end Dataset

end ApkFeatures
