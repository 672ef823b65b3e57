/-
**The names of the columns are printable.**

No name in a vocabulary has a control character or a comma in it, so a line of names is one line, and
each name is a cell of it.

* `allowed_of_spelled` — a check on the characters that many texts are written with.
* `Family.printable_keys`, `Family.unseparated_keys` — the names.
* `Family.printable_header` — the first line of a table.
-/
import ApkFeatures.Family

namespace ApkFeatures

/-- No character of the text is a control character. -/
def IsPrintable (text : String) : Prop := ∀ c ∈ text.toList, 32 ≤ c.toNat

/-- A character that can be seen, or a blank, but no comma. -/
def isInCell (c : Char) : Bool := Nat.ble 32 c.toNat && !Nat.beq 44 c.toNat

/-! ### Written names -/

/-- A text is spelled by its characters, and further texts by theirs. -/
theorem spelled_cons {spelling : List Char} {texts : List String} {spellings : List (List Char)}
    (rest : texts = spellings.map String.ofList) :
    String.ofList spelling :: texts = (spelling :: spellings).map String.ofList := by
  rw [rest, List.map_cons]

theorem allowed_of_spelled {allowed : Char → Bool} {texts : List String}
    (spelled : ∃ spellings : List (List Char), texts = spellings.map String.ofList ∧
      (spellings.all fun spelling => spelling.all allowed) = true) :
    ∀ text ∈ texts, ∀ c ∈ text.toList, allowed c = true := by
  obtain ⟨spellings, rfl, checked⟩ := spelled
  intro text member c inside
  obtain ⟨spelling, found, rfl⟩ := List.mem_map.mp member
  rw [String.toList_ofList] at inside
  exact List.all_eq_true.mp (List.all_eq_true.mp checked spelling found) c inside

-- The characters of the names are found by unification, one name after the other, and then one
-- computation checks them all. Taking the names apart by computation would take far longer.
theorem Family.isInCell_keys (family : Family) :
    ∀ key ∈ family.vocabulary.keys, ∀ c ∈ key.toList, isInCell c = true := by
  refine allowed_of_spelled ?_
  cases family
  all_goals
    dsimp only [Family.vocabulary, Vocabulary.permissions, Vocabulary.intentActions,
      Vocabulary.sensitiveApis]
    apply Exists.intro
    apply And.intro
    · repeat apply spelled_cons
      exact List.map_nil.symm
    · decide +kernel

theorem Family.printable_keys (family : Family) :
    ∀ key ∈ family.vocabulary.keys, IsPrintable key := fun key member c inside =>
  Nat.le_of_ble_eq_true (Bool.and_eq_true_iff.mp (family.isInCell_keys key member c inside)).1

/-- No name has a comma in it. -/
theorem Family.unseparated_keys (family : Family) :
    ∀ key ∈ family.vocabulary.keys, ',' ∉ key.toList := fun key member inside =>
  absurd (family.isInCell_keys key member ',' inside) (by decide)

/-! ### Lines of a table -/

theorem mem_intercalate {cells : List String} {c : Char}
    (member : c ∈ (",".intercalate cells).toList) : c = ',' ∨ ∃ cell ∈ cells, c ∈ cell.toList := by
  induction cells with
  | nil => cases member
  | cons first others ih =>
    cases others with
    | nil =>
      rw [String.intercalate_singleton] at member
      exact .inr ⟨first, List.mem_cons_self, member⟩
    | cons second rest =>
      rw [String.intercalate_cons_cons, String.toList_append, String.toList_append,
        List.mem_append, List.mem_append] at member
      rcases member with (inFirst | comma) | later
      · exact .inr ⟨first, List.mem_cons_self, inFirst⟩
      · exact .inl (List.mem_singleton.mp comma)
      · rcases ih later with comma | ⟨cell, inside, found⟩
        · exact .inl comma
        · exact .inr ⟨cell, List.mem_cons_of_mem _ inside, found⟩

theorem printable_intercalate {cells : List String} (printable : ∀ cell ∈ cells, IsPrintable cell) :
    IsPrintable (",".intercalate cells) := by
  intro c member
  rcases mem_intercalate member with rfl | ⟨cell, inside, found⟩
  · decide
  · exact printable cell inside c found

/-- **The first line of the tables of a family is printable.** -/
theorem Family.printable_header (family : Family) : IsPrintable family.header := by
  have names := printable_intercalate family.printable_keys
  cases family with
  | permissions => exact names
  | intents => exact names
  | sensitiveApis =>
    intro c member
    have written : (Family.sensitiveApis.header).toList =
        "name,".toList ++ (",".intercalate Family.sensitiveApis.vocabulary.keys).toList := by
      rw [← String.toList_append]
      rfl
    rw [written, List.mem_append] at member
    have printable : ("name,".toList.all fun c => Nat.ble 32 c.toNat) = true := by decide
    rcases member with column | later
    · exact Nat.le_of_ble_eq_true (List.all_eq_true.mp printable c column)
    · exact names c later

end ApkFeatures
