/-
**Which inputs a merged table is made of.**

The inputs are sorted by their last names alone, and of neighbours that are the same path the first
one is kept. So no input is lost, whatever the order in which they are given. A path that is given
again is left out unless another path with the same last name, from another folder, stands between
the two: then it has two rows.

* `distinct`, `Interleaved` — the different paths among the inputs, and what keeps two of a kind
  apart.
* `distinct_subperm_kept`, `kept_perm_iff` — no input is lost, and when none is kept twice.
* `GivesRow`, `rowAt?_eq_some_iff` — the row of an input.
* `merge_inputs` — what merging leaves behind, for any inputs.
* `merge_interleaved` — one file that is merged twice.
-/
import Mathlib.Data.List.Destutter
import Mathlib.Data.List.Perm.Subperm
import ApkFeatures.Proofs.Report.Merging

namespace ApkFeatures

open FilePath FileTree

namespace Dataset

variable {paths inputs : List FilePath} {path : FilePath}

/-! ### The same path -/

theorem same_iff {first second : FilePath} :
    first.same second = true ↔ first.components = second.components := decide_eq_true_iff

theorem same_eq_false_iff {first second : FilePath} :
    first.same second = false ↔ first.components ≠ second.components := decide_eq_false_iff_not

theorem fileName?_of_components {first second : FilePath}
    (same : first.components = second.components) : first.fileName? = second.fileName? := by
  rw [fileName?, same, fileName?]

/-- **The different paths of a list**, each as it is written first. -/
def distinct : List FilePath → List FilePath
  | [] => []
  | path :: others => path :: (distinct others).filter fun later => !path.same later

/-- **A path is given again after another one with its last name.** -/
def Interleaved (inputs : List FilePath) : Prop :=
  ∃ first other again : FilePath, [first, other, again].Sublist inputs ∧
    first.same again = true ∧ first.same other = false ∧ first.fileName? = other.fileName?

theorem mem_distinct_iff : path ∈ distinct paths ↔ paths.find? (·.same path) = some path := by
  induction paths with
  | nil => simp [distinct]
  | cons first others ih =>
    rw [distinct, List.mem_cons, List.mem_filter, ih, List.find?_cons]
    cases same : first.same path with
    | true => simp [eq_comm]
    | false =>
      have apart : path ≠ first := by
        rintro rfl
        exact absurd (same.symm.trans (same_iff.mpr rfl)) Bool.false_ne_true
      simp [apart]

/-- Paths that differ pairwise have different components. -/
theorem nodup_components_iff :
    (paths.map components).Nodup ↔
      paths.Pairwise fun first second => first.same second = false := by
  rw [List.Nodup, List.pairwise_map]
  exact List.Pairwise.iff fun _ _ => same_eq_false_iff.symm

theorem nodup_distinct (paths : List FilePath) : ((distinct paths).map components).Nodup := by
  rw [nodup_components_iff]
  induction paths with
  | nil => exact .nil
  | cons first others ih =>
    refine List.pairwise_cons.mpr ⟨fun later member => ?_, ih.filter _⟩
    simpa using (List.mem_filter.mp member).2

/-! ### Neighbours -/

/-- The rule by which repeats are left out keeps what differs from the one before. -/
theorem withoutRepeats_eq_destutter (paths : List FilePath) :
    withoutRepeats paths = paths.destutter fun first second => first.same second = false := by
  fun_induction withoutRepeats paths with
  | case1 => rfl
  | case2 only => rfl
  | case3 first second rest repeated ih =>
    rw [ih, List.destutter_cons_cons, if_neg (by simp [repeated]), List.destutter_cons']
  | case4 first second rest different ih =>
    rw [ih, List.destutter_cons_cons, if_pos (by simpa using different), List.destutter_cons']

theorem withoutRepeats_sublist (paths : List FilePath) : (withoutRepeats paths).Sublist paths :=
  withoutRepeats_eq_destutter paths ▸ List.destutter_sublist _ paths

theorem withoutRepeats_isChain (paths : List FilePath) :
    (withoutRepeats paths).IsChain fun first second => first.same second = false :=
  withoutRepeats_eq_destutter paths ▸ List.isChain_destutter _ paths

/-- Of every path the first one is kept. -/
theorem find?_withoutRepeats (paths : List FilePath) (path : FilePath) :
    (withoutRepeats paths).find? (·.same path) = paths.find? (·.same path) := by
  fun_induction withoutRepeats paths with
  | case1 => rfl
  | case2 only => rfl
  | case3 first second rest repeated ih =>
    rw [ih, List.find?_cons, List.find?_cons, List.find?_cons]
    have alike : second.same path = first.same path := by
      rw [FilePath.same, FilePath.same, same_iff.mp repeated]
    cases same : first.same path with
    | true => rfl
    | false =>
      rw [alike, same]
  | case4 first second rest different ih =>
    rw [List.find?_cons, ih]
    conv_rhs => rw [List.find?_cons]

/-- **What alternates in a list still does among those that are kept.** -/
theorem sublist_withoutRepeats (paths : List FilePath) {kinds : List (List Component)}
    (listed : kinds.Sublist (paths.map components)) (alternate : kinds.IsChain (· ≠ ·)) :
    kinds.Sublist ((withoutRepeats paths).map components) := by
  fun_induction withoutRepeats paths generalizing kinds with
  | case1 => exact listed
  | case2 only => exact listed
  | case3 first second rest repeated ih =>
    refine ih ?_ alternate
    rw [List.map_cons, List.map_cons, ← same_iff.mp repeated] at listed
    rw [List.map_cons]
    -- two neighbours of the same kind are not both needed
    cases listed with
    | cons _ fewer => exact fewer
    | cons_cons _ fewer =>
      cases fewer with
      | cons _ rest => exact rest.cons_cons _
      | cons_cons _ rest => exact absurd rfl (List.isChain_cons_cons.mp alternate).1
  | case4 first second rest different ih =>
    rw [List.map_cons] at listed ⊢
    cases listed with
    | cons _ fewer => exact (ih fewer alternate).cons _
    | cons_cons _ fewer => exact (ih fewer alternate.of_cons).cons_cons _

/-! ### Inputs by their names -/

theorem byFileName_pairwise (inputs : List FilePath) :
    (byFileName inputs).Pairwise fun first second =>
      first.fileName?.toList ≤ second.fileName?.toList :=
  pairwise_sorted (fun path => path.fileName?.toList) inputs

/-- Names that come before each other are the same. -/
theorem fileName?_of_le_le {first second : FilePath}
    (before : first.fileName?.toList ≤ second.fileName?.toList)
    (after : second.fileName?.toList ≤ first.fileName?.toList) :
    first.fileName? = second.fileName? := by
  have same := List.le_antisymm before after
  cases one : first.fileName? <;> cases other : second.fileName? <;> simp_all

/-- **Inputs with one name keep their places.** -/
theorem sublist_byFileName {some : List FilePath} (listed : some.Sublist inputs)
    (tied : ∀ first ∈ some, ∀ second ∈ some, first.fileName? = second.fileName?) :
    some.Sublist (byFileName inputs) :=
  sublist_sorted (fun path : FilePath => path.fileName?.toList)
    (List.pairwise_of_forall_mem_list fun first inside second also => by
      rw [tied first inside second also]
      exact List.le_refl _) listed

/-- **Inputs with one name keep their order.** -/
theorem filter_byFileName {kept : FilePath → Bool}
    (tied : ∀ first second, kept first = true → kept second = true →
      first.fileName? = second.fileName?) (inputs : List FilePath) :
    (byFileName inputs).filter kept = inputs.filter kept := by
  have among : (inputs.filter kept).Sublist (byFileName inputs) :=
    sublist_byFileName List.filter_sublist fun first inside second also =>
      tied first second (List.mem_filter.mp inside).2 (List.mem_filter.mp also).2
  have again := among.filter kept
  rw [List.filter_filter] at again
  simp only [Bool.and_self] at again
  refine (again.eq_of_length ?_).symm
  exact ((List.mergeSort_perm inputs _).filter kept).length_eq.symm

/-! ### What is kept -/

/-- **Of every input the first spelling is kept first.** -/
theorem find?_kept (inputs : List FilePath) (path : FilePath) :
    (withoutRepeats (byFileName inputs)).find? (·.same path) = inputs.find? (·.same path) := by
  have tied : ∀ first second : FilePath, first.same path = true → second.same path = true →
      first.fileName? = second.fileName? := fun first second one other =>
    fileName?_of_components ((same_iff.mp one).trans (same_iff.mp other).symm)
  rw [find?_withoutRepeats, ← List.head?_filter, filter_byFileName tied, List.head?_filter]

/-- **No input is lost.** -/
theorem distinct_subperm_kept (inputs : List FilePath) :
    (distinct inputs).Subperm (withoutRepeats (byFileName inputs)) := by
  refine List.subperm_of_subset (nodup_distinct inputs).of_map fun path member => ?_
  rw [mem_distinct_iff, ← find?_kept] at member
  exact List.mem_of_find?_eq_some member

/-- Between two neighbours in kind there is another one, if neighbours differ. -/
theorem exists_between {first last : FilePath}
    (chain : paths.IsChain fun first second => first.same second = false)
    (listed : [first, last].Sublist paths) (same : first.same last = true) :
    ∃ other, [first, other, last].Sublist paths ∧ first.same other = false := by
  induction paths with
  | nil => cases listed
  | cons head tail ih =>
    cases listed with
    | cons _ later =>
      obtain ⟨other, found, differs⟩ := ih chain.of_cons later
      exact ⟨other, found.cons _, differs⟩
    | cons_cons _ later =>
      cases tail with
      | nil => cases later
      | cons next rest =>
        have differs := (List.isChain_cons_cons.mp chain).1
        refine ⟨next, ?_, differs⟩
        cases later with
        | cons _ further => exact (further.cons_cons next).cons_cons first
        | cons_cons _ _ => exact absurd (same.symm.trans differs) (by decide)

/-- **Without interleaving nothing is kept twice.** -/
theorem nodup_kept (apart : ¬ Interleaved inputs) :
    ((withoutRepeats (byFileName inputs)).map components).Nodup := by
  rw [nodup_components_iff, List.pairwise_iff_forall_sublist]
  intro first last listed
  by_contra same
  rw [Bool.not_eq_false] at same
  obtain ⟨other, between, differs⟩ :=
    exists_between (withoutRepeats_isChain _) listed same
  have sorted := between.trans (withoutRepeats_sublist _)
  -- the three have one name, since the outer two have
  have ordered := (byFileName_pairwise inputs).sublist sorted
  simp only [List.pairwise_cons, List.mem_cons, List.not_mem_nil, or_false, forall_eq_or_imp,
    forall_eq] at ordered
  obtain ⟨⟨before, -⟩, after, -⟩ := ordered
  have ends := fileName?_of_components (same_iff.mp same)
  have named : first.fileName? = other.fileName? := by
    refine fileName?_of_le_le before ?_
    rw [ends]
    exact after
  refine apart ⟨first, other, last, ?_, same, differs, named⟩
  have found := sorted.filter fun path => decide (path.fileName? = first.fileName?)
  rw [filter_byFileName fun one two isOne isTwo =>
    (of_decide_eq_true isOne).trans (of_decide_eq_true isTwo).symm] at found
  rw [List.filter_eq_self.mpr (by simp [← named, ← ends])] at found
  exact found.trans List.filter_sublist

/-- **Exactly one of every input is kept unless inputs are interleaved.** -/
theorem kept_perm_iff (inputs : List FilePath) :
    (withoutRepeats (byFileName inputs)).Perm (distinct inputs) ↔ ¬ Interleaved inputs := by
  constructor
  · rintro perm ⟨first, other, again, listed, same, differs, named⟩
    have ends := fileName?_of_components (same_iff.mp same)
    have name : ∀ path ∈ [first, other, again], path.fileName? = first.fileName? := by
      simp [named, ← ends]
    have sorted : [first, other, again].Sublist (byFileName inputs) :=
      sublist_byFileName listed fun one inside two also =>
        (name one inside).trans (name two also).symm
    rw [same_iff] at same
    rw [same_eq_false_iff] at differs
    have alternate : ([first, other, again].map components).IsChain (· ≠ ·) :=
      List.isChain_cons_cons.mpr
        ⟨differs, List.isChain_cons_cons.mpr ⟨same ▸ differs.symm, .singleton _⟩⟩
    have kinds := sublist_withoutRepeats _ (sorted.map components) alternate
    have twice := ((perm.map components).nodup_iff.mpr (nodup_distinct inputs)).sublist kinds
    simp [same] at twice
  · intro apart
    have nodup := nodup_kept apart
    rw [List.perm_ext_iff_of_nodup nodup.of_map (nodup_distinct inputs).of_map]
    intro path
    rw [mem_distinct_iff, ← find?_kept]
    refine ⟨fun member => ?_, List.mem_of_find?_eq_some⟩
    have among : ((withoutRepeats (byFileName inputs)).find? (·.same path)).isSome = true :=
      List.find?_isSome.mpr ⟨path, member, same_iff.mpr rfl⟩
    obtain ⟨found, located⟩ := Option.isSome_iff_exists.mp among
    have same := List.find?_some located
    rw [located, List.inj_on_of_nodup_map nodup (List.mem_of_find?_eq_some located) member
      (same_iff.mp same)]

/-! ### Rows -/

/-- **The row that an input gives.** Its name and its content are texts, the first line is the header
of the family and the second one is not empty; the row is the second line, a comma and the name. -/
def GivesRow (family : Family) (tree : FileTree) (path : FilePath) (row : String) : Prop :=
  ∃ (name content : String) (second : List Char) (others : List (List Char)),
    path.fileName? = some (Text.encode name) ∧ tree.read path = .ok (Text.encode content) ∧
      Text.lines content.toList = family.header.toList :: second :: others ∧ second ≠ [] ∧
        row = String.ofList second ++ "," ++ name

theorem row?_eq_some_iff {family : Family} {content row : String} :
    row? family content = some row ↔ ∃ (second : List Char) (others : List (List Char)),
      Text.lines content.toList = family.header.toList :: second :: others ∧ second ≠ [] ∧
        row = String.ofList second := by
  unfold row?
  split
  · rename_i header second others whole
    rw [Option.ite_none_right_eq_some, whole]
    constructor
    · rintro ⟨⟨isHeader, filled⟩, given⟩
      refine ⟨second, others, ?_, filled, (Option.some.inj given).symm⟩
      rw [← isHeader, String.toList_ofList]
    · rintro ⟨second', others', same, filled, rfl⟩
      cases same
      exact ⟨⟨String.ofList_toList, filled⟩, rfl⟩
  · rename_i few
    simp only [reduceCtorEq, false_iff]
    rintro ⟨second, others, whole, -⟩
    exact few _ _ _ whole

theorem toOption_readText_iff {tree : FileTree} {path : FilePath} {content : String} :
    (tree.readText path).toOption = some content ↔ tree.read path = .ok (Text.encode content) :=
  Fallible.toOption_eq_some_iff.trans readText_eq_ok_iff

theorem rowAt?_eq_some_iff {family : Family} {tree : FileTree} {path : FilePath} {row : String} :
    rowAt? family tree path = some row ↔ GivesRow family tree path row := by
  unfold rowAt? GivesRow
  simp only [Option.bind_eq_bind, Option.bind_eq_some_iff, Text.decode?_eq_some_iff, row?_eq_some_iff,
    Option.pure_def, Option.some.injEq]
  constructor
  · rintro ⟨name, ⟨_, named, rfl⟩, content, readable, _, ⟨second, others, lines, filled, rfl⟩, rfl⟩
    exact ⟨name, content, second, others, named, toOption_readText_iff.mp readable, lines, filled,
      rfl⟩
  · rintro ⟨name, content, second, others, named, readable, lines, filled, rfl⟩
    exact ⟨name, ⟨_, named, rfl⟩, content, toOption_readText_iff.mpr readable, _,
      ⟨second, others, lines, filled, rfl⟩, rfl⟩

/-! ### Merging any inputs -/

section Merge

variable {output : FilePath} {progress : Progress} {parented emptied : FileTree}
  (parent : progress.tree.createParent output = (.ok (), parented))
  (opened : parented.write output [] = .ok emptied)

include parent opened

/-- **Merging any inputs.** Once the output could be emptied, merging succeeds; what it leaves is the
header and the rows of the inputs that are kept, and it gives the number of these rows. Every
different input is kept, nothing else is, and each is kept once exactly if no path is given again
after another one with its last name. The rows are told by what the inputs hold when the output has
been emptied; only the output has been written then. -/
theorem merge_inputs (family : Family) (inputs : List FilePath) :
    ∃ kept after, (merge family inputs output).run progress =
        (.ok ⟨family, output, (kept.filterMap (rowAt? family emptied)).length⟩, after) ∧
      after.tree.read output =
        .ok (Text.encode (merged family (kept.filterMap (rowAt? family emptied)))) ∧
      (∀ path row, rowAt? family emptied path = some row ↔ GivesRow family emptied path row) ∧
      (distinct inputs).Subperm kept ∧ (∀ path ∈ kept, path ∈ inputs) ∧
      (kept.Perm (distinct inputs) ↔ ¬ Interleaved inputs) ∧
      OnlyWrites [output.placeFrom progress.tree.workingFolder] progress.tree emptied := by
  obtain ⟨after, merges, content⟩ := merge_eq_ok parent opened family inputs
  refine ⟨withoutRepeats (byFileName inputs), after, merges, content,
    fun path row => rowAt?_eq_some_iff, distinct_subperm_kept inputs, fun path member => ?_,
    kept_perm_iff inputs, emptied_onlyWrites parent opened⟩
  exact (List.mergeSort_perm inputs _).mem_iff.mp (mem_of_mem_withoutRepeats member)

end Merge

/-! ### Two tables of one name -/

section Sample

/-- A table without any features. -/
def emptyTable : Bytes :=
  Text.encode ((FeatureVector.zero Family.intents.vocabulary).csv (Family.intents.identifier? ""))

/-- Two folders with a table of the same name in each. -/
def twoFolders : FileTree :=
  let one := FileTree.empty.put [] (Text.encode "x") .folder folder_root (by decide)
  let two := one.put [] (Text.encode "y") .folder rfl (by decide)
  let three := two.put [Text.encode "x"] (Text.encode "a.csv") (.file emptyTable false)
    (by decide) (by decide)
  three.put [Text.encode "y"] (Text.encode "a.csv") (.file emptyTable false) rfl (by decide)

/-- The table in the first folder. -/
def firstTable : FilePath := .ofString "x/a.csv"

/-- The table in the second folder. -/
def secondTable : FilePath := .ofString "y/a.csv"

/-- The merged table. -/
def mergedTable : FilePath := .ofString "out.csv"

theorem exists_emptied : ∃ emptied, twoFolders.write mergedTable [] = .ok emptied := ⟨_, rfl⟩

theorem rowAt?_tables {emptied : FileTree}
    (opened : twoFolders.write mergedTable [] = .ok emptied) :
    (∃ row, rowAt? .intents emptied firstTable = some row) ∧
      ∃ row, rowAt? .intents emptied secondTable = some row := by
  have only := write_onlyWrites opened
  have first : twoFolders.read firstTable = .ok emptyTable := rfl
  have second : twoFolders.read secondTable = .ok emptyTable := rfl
  have named : firstTable.fileName? = some (Text.encode "a.csv") := by decide
  have alsoNamed : secondTable.fileName? = some (Text.encode "a.csv") := by decide
  exact ⟨⟨_, rowAt?_of_csv _ named (by decide) (only.read (by decide) first)⟩,
    ⟨_, rowAt?_of_csv _ alsoNamed (by decide) (only.read (by decide) second)⟩⟩

/-- A table that is given twice in a row has one row. -/
theorem merge_inputs_sample :
    ∃ after, (merge .intents [firstTable, firstTable, secondTable] mergedTable).run
      ⟨twoFolders, []⟩ = (.ok ⟨.intents, mergedTable, 2⟩, after) := by
  obtain ⟨emptied, opened⟩ := exists_emptied
  obtain ⟨⟨row, first⟩, ⟨other, second⟩⟩ := rowAt?_tables opened
  obtain ⟨kept, after, merges, -, -, -, -, once, -⟩ :=
    @merge_inputs mergedTable ⟨twoFolders, []⟩ twoFolders emptied rfl opened .intents
      [firstTable, firstTable, secondTable]
  have apart : ¬ Interleaved [firstTable, firstTable, secondTable] := by
    rintro ⟨one, between, again, listed, -, differs, -⟩
    cases listed.eq_of_length rfl
    exact absurd differs (by decide)
  have rows := (once.mpr apart).filterMap (rowAt? .intents emptied)
  have different : distinct [firstTable, firstTable, secondTable] = [firstTable, secondTable] := by
    decide
  rw [different, List.filterMap_cons_some first, List.filterMap_cons_some second] at rows
  rw [rows.length_eq] at merges
  exact ⟨after, merges⟩

/-- **A table that is given again after one of the same name has two rows.** -/
theorem merge_interleaved :
    ∃ emptied after, twoFolders.write mergedTable [] = .ok emptied ∧
      (merge .intents [firstTable, secondTable, firstTable] mergedTable).run ⟨twoFolders, []⟩ =
        (.ok ⟨.intents, mergedTable, 3⟩, after) ∧
      ((distinct [firstTable, secondTable, firstTable]).filterMap
        (rowAt? .intents emptied)).length = 2 := by
  obtain ⟨emptied, opened⟩ := exists_emptied
  obtain ⟨⟨row, first⟩, ⟨other, second⟩⟩ := rowAt?_tables opened
  obtain ⟨after, merges, -⟩ := @merge_eq_ok mergedTable ⟨twoFolders, []⟩ twoFolders emptied rfl
    opened .intents [firstTable, secondTable, firstTable]
  have sorted : byFileName [firstTable, secondTable, firstTable] =
      [firstTable, secondTable, firstTable] :=
    List.mergeSort_of_pairwise (by decide)
  have kept : withoutRepeats [firstTable, secondTable, firstTable] =
      [firstTable, secondTable, firstTable] := by
    rw [withoutRepeats_eq_destutter]
    decide
  have different : distinct [firstTable, secondTable, firstTable] = [firstTable, secondTable] := by
    decide
  rw [sorted, kept, List.filterMap_cons_some first, List.filterMap_cons_some second,
    List.filterMap_cons_some first] at merges
  refine ⟨emptied, after, opened, merges, ?_⟩
  rw [different, List.filterMap_cons_some first, List.filterMap_cons_some second]
  rfl

end Sample

end Dataset

end ApkFeatures
