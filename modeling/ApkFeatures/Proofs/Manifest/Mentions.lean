/-
**The permissions of a text are the names that it mentions.**

A manifest is searched as plain text, one name after the other, and not at all if the common
beginning of the names does not occur. What is found is told by occurrence alone: where a full name
occurs its beginning occurs too, so the short way gives what the search gives; where a part of a text
has a name the text has it; and where a full name occurs, so does every name that it begins with.

* `mentioned_eq_filter` — the short way agrees with the search.
* `mentions_of_infix`, `mentions_of_shorter` — a text mentions what its parts mention, and the names
  that a mentioned one begins with.
* `permissions_represents` — the value of every name.
* `permissions_spec` — all of it, for the features of a text.
-/
import Mathlib
import ApkFeatures.Manifest.Permissions
import ApkFeatures.Proofs.Feature.Assignments

namespace ApkFeatures.Manifest

variable {text part : List Char} {permission : String}

/-! ### Mentions -/

theorem mentions_iff :
    mentions text permission = true ↔ permissionStart ++ permission.toList <:+: text :=
  Text.occursIn_iff

/-- A text that mentions a permission has the common beginning in it. -/
theorem occursIn_permissionStart (mentioned : mentions text permission = true) :
    Text.occursIn permissionStart text = true :=
  Text.occursIn_iff.mpr <|
    (List.prefix_append permissionStart permission.toList).isInfix.trans (mentions_iff.mp mentioned)

/-- **The short way agrees with the search.** -/
theorem mentioned_eq_filter (text : List Char) :
    mentioned text = Vocabulary.permissions.keys.filter (mentions text) := by
  unfold mentioned
  split
  · rfl
  · rename_i absent
    exact (List.filter_eq_nil_iff.mpr fun permission _ found =>
      absent (occursIn_permissionStart found)).symm

/-- **A text mentions what a part of it mentions.** -/
theorem mentions_of_infix (inside : part <:+: text) (mentioned : mentions part permission = true) :
    mentions text permission = true :=
  mentions_iff.mpr ((mentions_iff.mp mentioned).trans inside)

/-- **A text that mentions a permission mentions those that its name begins with.** -/
theorem mentions_of_shorter {longer : String} (begins : permission.toList <+: longer.toList)
    (mentioned : mentions text longer = true) : mentions text permission = true :=
  mentions_iff.mpr <|
    ((List.prefix_append_right_inj permissionStart).mpr begins).isInfix.trans
      (mentions_iff.mp mentioned)

/-! ### Features -/

/-- **A name has the value one if it is mentioned, and zero otherwise.** -/
theorem permissions_represents (text : List Char) :
    (permissions text).Represents fun key =>
      if key ∈ Vocabulary.permissions.keys.filter (mentions text) then 1 else 0 := by
  unfold permissions
  rw [mentioned_eq_filter]
  exact .ofNames _

theorem get?_permissions {key : String} (known : key ∈ Vocabulary.permissions.keys) :
    (permissions text).get? key = if mentions text key then some 1 else some 0 := by
  rw [(permissions_represents text).get?, if_pos known]
  by_cases mentioned : mentions text key = true
  · simp [known, mentioned]
  · simp [mentioned]

/-- **No column has less in a text than in a part of it.** -/
theorem permissions_mono (inside : part <:+: text)
    (column : Fin Vocabulary.permissions.size) :
    (permissions part).values.get column ≤ (permissions text).values.get column := by
  rw [permissions_represents part column, permissions_represents text column]
  split
  · dsimp only
    split
    · rename_i found
      obtain ⟨known, mentioned⟩ := List.mem_filter.mp found
      rw [if_pos (List.mem_filter.mpr ⟨known, mentions_of_infix inside mentioned⟩)]
      exact UInt8.le_refl 1
    · exact UInt8.zero_le
  · exact UInt8.le_refl 0

theorem max_permissions_le {other : List Char} (inside : part <:+: text) (also : other <:+: text)
    (column : Fin Vocabulary.permissions.size) :
    max ((permissions part).values.get column) ((permissions other).values.get column) ≤
      (permissions text).values.get column := by
  show (if (permissions part).values.get column ≤ (permissions other).values.get column then
    (permissions other).values.get column else (permissions part).values.get column) ≤ _
  split
  · exact permissions_mono also column
  · exact permissions_mono inside column

/-- **The permission features of a text.** Every text has some, whether it is well-formed or not. A
name of the vocabulary is one if its full name occurs in the text, anywhere, and zero otherwise; the
short way, taken when the common beginning of the names does not occur, gives what the search through
all names gives. So no column is less in a text than in any two parts of it, and a name is one if a
name that begins with it is. -/
theorem permissions_spec (text : List Char) :
    permissions text = FeatureVector.ofNames Vocabulary.permissions
      (Vocabulary.permissions.keys.filter (mentions text)) ∧
    (∀ key ∈ Vocabulary.permissions.keys,
      ((permissions text).get? key = some 1 ↔
        "android.permission.".toList ++ key.toList <:+: text) ∧
      ((permissions text).get? key = some 0 ↔
        ¬ "android.permission.".toList ++ key.toList <:+: text)) ∧
    (∀ first second : List Char, first <:+: text → second <:+: text →
      ∀ column, max ((permissions first).values.get column)
        ((permissions second).values.get column) ≤ (permissions text).values.get column) ∧
    (∀ key ∈ Vocabulary.permissions.keys, ∀ longer : String, key.toList <+: longer.toList →
      (permissions text).get? longer = some 1 → (permissions text).get? key = some 1) := by
  have value (key : String) (known : key ∈ Vocabulary.permissions.keys) :
      ((permissions text).get? key = some 1 ↔ mentions text key = true) ∧
        ((permissions text).get? key = some 0 ↔ ¬ mentions text key = true) := by
    rw [get?_permissions known]
    by_cases mentioned : mentions text key = true
    · simp [mentioned]
    · simp [mentioned]
  refine ⟨?_, fun key known => ?_, fun first second inside also => max_permissions_le inside also,
    fun key known longer begins set => ?_⟩
  · rw [permissions, mentioned_eq_filter]
  · rw [(value key known).1, (value key known).2, mentions_iff]
    exact ⟨Iff.rfl, Iff.rfl⟩
  · have known' : longer ∈ Vocabulary.permissions.keys := by
      by_contra unknown
      rw [(permissions_represents text).get?, if_neg unknown] at set
      cases set
    exact (value key known).1.mpr
      (mentions_of_shorter begins ((value longer known').1.mp set))

/-- A beginning that is followed by another one, and a name that is followed by more: the name that
it begins with is found as well, and so is what either of two parts has. -/
theorem permissions_spec_sample :
    let first := "<<<android.permission.android.permission.BLUETOOTH_ADMIN".toList
    let second := "permission.CAMERA android.permission.INTERNET".toList
    let text := first ++ second
    first <:+: text ∧ second <:+: text ∧ "BLUETOOTH".toList <+: "BLUETOOTH_ADMIN".toList ∧
      (permissions text).get? "BLUETOOTH_ADMIN" = some 1 ∧
      (permissions text).get? "BLUETOOTH" = some 1 ∧
      (permissions text).get? "INTERNET" = some 1 ∧
      (permissions text).get? "CAMERA" = some 0 ∧
      ∀ column, max ((permissions first).values.get column)
        ((permissions second).values.get column) ≤ (permissions text).values.get column := by
  intro first second text
  have inFront : first <:+: text := (List.prefix_append _ _).isInfix
  have behind : second <:+: text := (List.suffix_append _ _).isInfix
  have begins : "BLUETOOTH".toList <+: "BLUETOOTH_ADMIN".toList := ⟨"_ADMIN".toList, by decide⟩
  obtain ⟨-, value, parts, shorter⟩ := permissions_spec text
  have set : (permissions text).get? "BLUETOOTH_ADMIN" = some 1 :=
    (value "BLUETOOTH_ADMIN" (by decide +kernel)).1.mpr
      ⟨"<<<android.permission.".toList, second, by decide +kernel⟩
  have alsoSet : (permissions text).get? "INTERNET" = some 1 :=
    (value "INTERNET" (by decide +kernel)).1.mpr
      ⟨first ++ "permission.CAMERA ".toList, [], by decide +kernel⟩
  have missing : ¬ "android.permission.".toList ++ "CAMERA".toList <:+: text := by
    rw [← Text.occursIn_iff]
    decide +kernel
  exact ⟨inFront, behind, begins, set, shorter "BLUETOOTH" (by decide +kernel) _ begins set,
    alsoSet, (value "CAMERA" (by decide +kernel)).2.mpr missing,
    parts first second inFront behind⟩

end ApkFeatures.Manifest
