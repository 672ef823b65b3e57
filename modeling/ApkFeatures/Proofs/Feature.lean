/-
**What a feature vector holds.**

A name of the vocabulary has one column, its first, and two names never share one. So setting a name
changes the value of that name and of no other.

* `FeatureVector.get?_set` — what a name has after another is set.
* `FeatureVector.get?_ofNames` — the vector of a list of names is one exactly at these names.
-/
import ApkFeatures.Feature

namespace ApkFeatures

namespace Vocabulary

variable {vocabulary : Vocabulary} {key other : String}

theorem key_of_position? {column : Fin vocabulary.size}
    (found : vocabulary.position? key = some column) : vocabulary.keys.get column = key :=
  (List.finIdxOf?_eq_some_iff.mp found).1

/-- **Two names never share a column.** -/
theorem position?_inj {column : Fin vocabulary.size}
    (found : vocabulary.position? key = some column)
    (again : vocabulary.position? other = some column) : key = other :=
  (key_of_position? found).symm.trans (key_of_position? again)

/-- Every name of the vocabulary has a column. -/
theorem exists_position? (known : key ∈ vocabulary.keys) :
    ∃ column, vocabulary.position? key = some column := by
  cases found : vocabulary.position? key with
  | none => exact absurd known (List.finIdxOf?_eq_none_iff.mp found)
  | some column => exact ⟨column, rfl⟩

/-- Other names have none. -/
theorem position?_eq_none (unknown : key ∉ vocabulary.keys) : vocabulary.position? key = none :=
  List.finIdxOf?_eq_none_iff.mpr unknown

end Vocabulary

namespace FeatureVector

variable {vocabulary : Vocabulary} {key : String}

theorem get?_zero (known : key ∈ vocabulary.keys) : (zero vocabulary).get? key = some 0 := by
  obtain ⟨column, found⟩ := Vocabulary.exists_position? known
  unfold get?
  rw [found]
  simp [zero]

/-- **Setting a name changes the value of that name only.** -/
theorem get?_set (known : key ∈ vocabulary.keys) (features : FeatureVector vocabulary)
    (name : String) (value : UInt8) :
    (features.set name value).get? key =
      if name = key then some value else features.get? key := by
  obtain ⟨column, found⟩ := Vocabulary.exists_position? known
  by_cases named : name ∈ vocabulary.keys
  · obtain ⟨place, placed⟩ := Vocabulary.exists_position? named
    unfold get? set set?
    rw [placed, found]
    by_cases same : name = key
    · subst same
      cases Option.some.inj (placed.symm.trans found)
      simp
    · have apart : place.val ≠ column.val := fun equal =>
        same (Vocabulary.position?_inj placed (Fin.ext equal ▸ found))
      simp [same, apart]
  · have different : name ≠ key := by
      rintro rfl
      exact named known
    unfold set set?
    rw [Vocabulary.position?_eq_none named, if_neg different]
    rfl

/-- **The vector of a list of names is one at these names and zero elsewhere.** -/
theorem get?_ofNames (known : key ∈ vocabulary.keys) (names : List String) :
    (ofNames vocabulary names).get? key = if key ∈ names then some 1 else some 0 := by
  have general : ∀ features : FeatureVector vocabulary,
      (names.foldl (fun features name => features.set name 1) features).get? key =
        if key ∈ names then some 1 else features.get? key := by
    induction names with
    | nil => exact fun features => rfl
    | cons name names ih =>
      intro features
      rw [List.foldl_cons, ih, get?_set known]
      by_cases same : name = key
      · simp [same]
      · simp [same, Ne.symm same]
  rw [ofNames, general, get?_zero known]

end FeatureVector

end ApkFeatures
