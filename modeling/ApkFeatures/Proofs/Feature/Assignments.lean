/-
**A feature vector as a table of values by name.**

Names are set to values one after the other. A name that the vocabulary does not have is refused, and
nothing changes. A name that is repeated in the vocabulary has several columns: its value is in the
first one, and the others stay zero.

* `setAll` — names that are set one after the other.
* `lastValue` — the value that a name is set to last.
* `Represents` — what the columns hold if every name has a value.
* `Represents.set`, `Represents.setAll` — one name that is set, and any number of them.
* `Represents.ofNames` — the vector of a list of names.
* `setAll_spec` — what a new vector holds after any assignments.
-/
import Mathlib.Data.Finset.Card
import Mathlib.Data.Fintype.Basic
import Mathlib.Data.List.FinRange
import Mathlib.Logic.Function.Basic
import ApkFeatures.Proofs.Feature
import ApkFeatures.Vocabulary.Index

namespace ApkFeatures

/-- Names and the values that they are set to, in order. -/
abbrev Assignments := List (String × UInt8)

/-- The value that a name is set to last, or a value for names that are never set. -/
def Assignments.lastOr (assignments : Assignments) (key : String) (otherwise : UInt8) : UInt8 :=
  (assignments.reverse.lookup key).getD otherwise

/-- The value that a name is set to last, zero if it is never set. -/
def Assignments.lastValue (assignments : Assignments) (key : String) : UInt8 :=
  assignments.lastOr key 0

theorem Assignments.lastOr_cons (key other : String) (value : UInt8) (rest : Assignments)
    (otherwise : UInt8) :
    lastOr ((key, value) :: rest) other otherwise =
      rest.lastOr other (if key = other then value else otherwise) := by
  rw [lastOr, lastOr, List.reverse_cons, List.lookup_append]
  by_cases same : key = other
  · subst same
    cases rest.reverse.lookup key <;> simp
  · have apart : (other == key) = false := beq_eq_false_iff_ne.mpr (Ne.symm same)
    simp [List.lookup_cons, apart, same]

namespace Vocabulary

variable {vocabulary : Vocabulary}

/-- A column is the first one of its name just if the name is not among the columns before it. -/
theorem position?_get_iff (column : Fin vocabulary.size) :
    vocabulary.position? (vocabulary.keys.get column) = some column ↔
      vocabulary.keys.get column ∉ vocabulary.keys.take column := by
  refine List.finIdxOf?_eq_some_iff.trans ⟨fun first member => ?_, fun fresh => ⟨rfl, ?_⟩⟩
  · obtain ⟨place, inside, same⟩ := List.mem_take_iff_getElem.mp member
    obtain ⟨earlier, within⟩ := Nat.lt_min.mp inside
    exact first.2 ⟨place, within⟩ earlier same
  · intro place earlier same
    exact fresh (List.mem_take_iff_getElem.mpr ⟨place, Nat.lt_min.mpr ⟨earlier, place.isLt⟩, same⟩)

end Vocabulary

namespace FeatureVector

variable {vocabulary : Vocabulary} {features : FeatureVector vocabulary} {value : String → UInt8}

/-! ### Assignments -/

/-- Sets names one after the other; the answers tell which of them the vocabulary has. -/
def setAll (features : FeatureVector vocabulary) :
    Assignments → List Bool × FeatureVector vocabulary
  | [] => ([], features)
  | (key, value) :: rest =>
    match features.set? key value with
    | some changed =>
      let (answers, reached) := changed.setAll rest
      (true :: answers, reached)
    | none =>
      let (answers, reached) := features.setAll rest
      (false :: answers, reached)

/-- **A name is refused just if the vocabulary does not have it.** -/
theorem set?_eq_none_iff {key : String} {new : UInt8} :
    features.set? key new = none ↔ key ∉ vocabulary.keys := by
  rw [set?, Option.map_eq_none_iff]
  exact List.finIdxOf?_eq_none_iff

theorem setAll_answers (assignments : Assignments) :
    ∀ features : FeatureVector vocabulary, (features.setAll assignments).1 =
      assignments.map fun assignment => decide (assignment.1 ∈ vocabulary.keys) := by
  induction assignments with
  | nil => exact fun features => rfl
  | cons assignment rest ih =>
    intro features
    obtain ⟨key, new⟩ := assignment
    rw [setAll, List.map_cons]
    cases given : features.set? key new with
    | none =>
      dsimp only
      rw [ih, decide_eq_false (set?_eq_none_iff.mp given)]
    | some changed =>
      have known : key ∈ vocabulary.keys := by
        by_contra unknown
        rw [set?_eq_none_iff.mpr unknown] at given
        cases given
      dsimp only
      rw [ih, decide_eq_true known]

/-- What has been set is what `set` leaves, name after name. -/
theorem setAll_cons (features : FeatureVector vocabulary) (key : String) (new : UInt8)
    (rest : Assignments) :
    (features.setAll ((key, new) :: rest)).2 = ((features.set key new).setAll rest).2 := by
  rw [setAll, set]
  cases features.set? key new <;> rfl

/-! ### Columns -/

/-- What is found are the columns that are not zero. -/
theorem found_eq_card (features : FeatureVector vocabulary) :
    features.found =
      (Finset.univ.filter fun column : Fin vocabulary.size =>
        features.values.get column ≠ 0).card := by
  have values : features.values.toList =
      (List.finRange vocabulary.size).map fun column => features.values.get column :=
    List.ext_getElem (by simp) fun i _ _ => by
      rw [List.getElem_map, List.getElem_finRange]
      rfl
  have columns : (Finset.univ.filter fun column : Fin vocabulary.size =>
        features.values.get column ≠ 0) =
      ((List.finRange vocabulary.size).filter fun column =>
        decide (features.values.get column ≠ 0)).toFinset := by
    ext column
    simp
  rw [columns, List.toFinset_card_of_nodup ((List.nodup_finRange _).filter _), found, values,
    List.filter_map, List.length_map]
  rfl

/-- Every name has its value in its first column, and its other columns are zero. -/
def Represents (features : FeatureVector vocabulary) (value : String → UInt8) : Prop :=
  ∀ column : Fin vocabulary.size, features.values.get column =
    if vocabulary.position? (vocabulary.keys.get column) = some column then
      value (vocabulary.keys.get column)
    else 0

theorem represents_zero : (zero vocabulary).Represents fun _ => 0 := fun column => by
  rw [ite_self]
  exact Vector.getElem_replicate column.isLt

namespace Represents

/-- **Setting a name gives it the value**, and every other name keeps its own. -/
theorem set (represents : features.Represents value) (key : String) (new : UInt8) :
    (features.set key new).Represents (Function.update value key new) := by
  intro column
  have before := represents column
  cases found : vocabulary.position? key with
  | none =>
    have unknown : key ∉ vocabulary.keys := List.finIdxOf?_eq_none_iff.mp found
    have apart : vocabulary.keys.get column ≠ key := fun same =>
      unknown (same ▸ List.get_mem _ _)
    have same : features.set key new = features := by
      rw [FeatureVector.set, set?_eq_none_iff.mpr unknown]
      rfl
    rw [same, Function.update_of_ne apart]
    exact before
  | some place =>
    have changed : (features.set key new).values.get column =
        if place = column then new else features.values.get column := by
      rw [FeatureVector.set, set?, found]
      simp only [Fin.ext_iff]
      exact Vector.getElem_set place.isLt column.isLt
    rw [changed]
    by_cases here : place = column
    · subst here
      have named := Vocabulary.key_of_position? found
      rw [if_pos rfl, named, if_pos found, Function.update_self]
    · rw [if_neg here, before]
      split
      · rename_i first
        have apart : vocabulary.keys.get column ≠ key := fun same => by
          rw [same, found] at first
          exact here (Option.some.inj first)
        rw [Function.update_of_ne apart]
      · rfl

/-- **After any assignments every name has the value it was set to last.** -/
theorem setAll (assignments : Assignments) :
    ∀ {features : FeatureVector vocabulary} {value : String → UInt8}, features.Represents value →
      (features.setAll assignments).2.Represents fun key => assignments.lastOr key (value key) := by
  induction assignments with
  | nil => exact fun represents => represents
  | cons assignment rest ih =>
    intro features value represents
    obtain ⟨key, new⟩ := assignment
    rw [setAll_cons]
    have later := ih (represents.set key new)
    have values :
        (fun other => Assignments.lastOr rest other (Function.update value key new other)) =
          fun other => Assignments.lastOr ((key, new) :: rest) other (value other) := by
      funext other
      rw [Assignments.lastOr_cons, Function.update_apply]
      simp only [eq_comm]
    rw [← values]
    exact later

/-- **Names that are set to one have the value one**, and every other name keeps its own. -/
theorem setOnes (names : List String) :
    ∀ {features : FeatureVector vocabulary} {value : String → UInt8}, features.Represents value →
      (names.foldl (fun features name => features.set name 1) features).Represents
        fun key => if key ∈ names then 1 else value key := by
  induction names with
  | nil =>
    intro features value represents
    simpa using represents
  | cons name names ih =>
    intro features value represents
    have later := ih (represents.set name 1)
    have values :
        (fun key => if key ∈ names then 1 else Function.update value name 1 key) =
          fun key => if key ∈ name :: names then 1 else value key := by
      funext key
      by_cases same : key = name
      · subst same
        simp
      · simp [same]
    rw [List.foldl_cons, ← values]
    exact later

/-- **The vector of a list of names represents these names.** -/
theorem ofNames (names : List String) :
    (FeatureVector.ofNames vocabulary names).Represents fun key => if key ∈ names then 1 else 0 :=
  represents_zero.setOnes names

variable (represents : features.Represents value)

include represents

theorem get? (key : String) :
    features.get? key = if key ∈ vocabulary.keys then some (value key) else none := by
  split
  · rename_i known
    obtain ⟨column, found⟩ := Vocabulary.exists_position? known
    have named := Vocabulary.key_of_position? found
    have held := represents column
    rw [named, if_pos found] at held
    rw [FeatureVector.get?, found, Option.map_some]
    exact congrArg some held
  · rename_i unknown
    rw [FeatureVector.get?, Vocabulary.position?_eq_none unknown]
    rfl

/-- **The names are listed in order**, each with its value where it stands first. -/
theorem toList : features.toList = vocabulary.keys.zipIdx.map fun (key, column) =>
    (key, if key ∈ vocabulary.keys.take column then 0 else value key) := by
  have width : features.values.toList.length = vocabulary.keys.length := Vector.length_toList
  refine List.ext_getElem (by simp [FeatureVector.toList, width]) fun i inList inKeys => ?_
  have inside : i < vocabulary.keys.length := by simpa using inKeys
  have column := represents ⟨i, inside⟩
  simp only [Vocabulary.position?_get_iff, ite_not] at column
  simp only [FeatureVector.toList, List.getElem_zip, List.getElem_map, List.getElem_zipIdx,
    Nat.zero_add, Vector.getElem_toList]
  exact congrArg (Prod.mk _) column

/-- **The values other than zero are counted once for every name.** -/
theorem found :
    features.found = (vocabulary.keys.toFinset.filter fun key => value key ≠ 0).card := by
  have isFirst {column : Fin vocabulary.size} (nonzero : features.values.get column ≠ 0) :
      vocabulary.position? (vocabulary.keys.get column) = some column := by
    by_contra later
    rw [represents column, if_neg later] at nonzero
    exact nonzero rfl
  rw [found_eq_card]
  refine Finset.card_bij (fun column _ => vocabulary.keys.get column) ?_ ?_ ?_
  · intro column member
    have nonzero := (Finset.mem_filter.mp member).2
    have held := represents column
    rw [if_pos (isFirst nonzero)] at held
    exact Finset.mem_filter.mpr ⟨List.mem_toFinset.mpr (List.get_mem _ _), held ▸ nonzero⟩
  · intro column member other also same
    have first := isFirst (Finset.mem_filter.mp member).2
    have second := isFirst (Finset.mem_filter.mp also).2
    rw [same, second] at first
    exact (Option.some.inj first).symm
  · intro key member
    obtain ⟨known, nonzero⟩ := Finset.mem_filter.mp member
    obtain ⟨column, found⟩ := Vocabulary.exists_position? (List.mem_toFinset.mp known)
    have named := Vocabulary.key_of_position? found
    refine ⟨column, Finset.mem_filter.mpr ⟨Finset.mem_univ _, ?_⟩, named⟩
    rw [represents column, named, if_pos found]
    exact nonzero

end Represents

/-- **A new vector after any assignments.** Names are looked up in a table that was made once, which
has the first column of every name. An assignment is accepted just if the vocabulary has the name; it
changes the value of no other name, and nothing at all if it is refused. Names of the vocabulary have
the value they were set to last, or zero; other names have none. The vector is as long as the
vocabulary and is listed in its order, with zero at every repetition of a name. The values other than
zero are those of different names. -/
theorem setAll_spec (vocabulary : Vocabulary) (assignments : Assignments) :
    let answers := ((zero vocabulary).setAll assignments).1
    let features := ((zero vocabulary).setAll assignments).2
    (∀ key, vocabulary.index[key]? = (vocabulary.position? key).map Fin.val) ∧
    answers = assignments.map (fun assignment => decide (assignment.1 ∈ vocabulary.keys)) ∧
    (∀ key value, key ∉ vocabulary.keys →
      features.set? key value = none ∧ features.set key value = features) ∧
    (∀ key value, key ∈ vocabulary.keys →
      ∃ changed, features.set? key value = some changed ∧ changed.get? key = some value ∧
        ∀ other, other ≠ key → changed.get? other = features.get? other) ∧
    (∀ key, features.get? key =
      if key ∈ vocabulary.keys then some (assignments.lastValue key) else none) ∧
    features.values.toList.length = vocabulary.keys.length ∧
    features.toList = vocabulary.keys.zipIdx.map (fun (key, column) =>
      (key, if key ∈ vocabulary.keys.take column then 0 else assignments.lastValue key)) ∧
    features.found =
      (vocabulary.keys.toFinset.filter fun key => assignments.lastValue key ≠ 0).card := by
  intro answers features
  have represents : features.Represents assignments.lastValue := represents_zero.setAll assignments
  refine ⟨vocabulary.getElem?_index, setAll_answers assignments _, fun key value unknown => ?_,
    fun key value known => ?_, represents.get?, Vector.length_toList, represents.toList,
    represents.found⟩
  · have refused : features.set? key value = none := set?_eq_none_iff.mpr unknown
    refine ⟨refused, ?_⟩
    rw [FeatureVector.set, refused]
    rfl
  · obtain ⟨changed, given⟩ : ∃ changed, features.set? key value = some changed :=
      Option.ne_none_iff_exists'.mp (mt set?_eq_none_iff.mp (not_not_intro known))
    have after := represents.set key value
    rw [FeatureVector.set, given, Option.getD_some] at after
    refine ⟨changed, given, ?_, fun other apart => ?_⟩
    · rw [after.get?, if_pos known, Function.update_self]
    · rw [after.get?, represents.get?, Function.update_of_ne apart]

end FeatureVector

end ApkFeatures
