/-
**What has changed between two trees.**

A run works on a tree and leaves another one. Whoever keeps the files themselves has to make the
same changes to them: first remove what is no longer there, what lies in a folder before the
folder, and then make what is new, a folder before what lies in it.

* `mem_removed`, `mem_made` — what has changed is what the two trees find differently.
-/
import ApkFeatures.FileTree.Basic

namespace ApkFeatures.FileTree

/-- The entries that one tree has and the other has not, or has differently. -/
def withoutThoseOf (tree other : FileTree) : List (Location × Entry) :=
  tree.entries.filter fun (place, entry) => other.lookup? place ≠ some entry

/-- What has to be removed, the deepest first. -/
def removed (before after : FileTree) : List (Location × Entry) :=
  (before.withoutThoseOf after).mergeSort fun a b => decide (b.1.length ≤ a.1.length)

/-- What has to be made, the deepest last. -/
def made (before after : FileTree) : List (Location × Entry) :=
  (after.withoutThoseOf before).mergeSort fun a b => decide (a.1.length ≤ b.1.length)

/-- A tree has an entry in its list exactly if it finds it there. -/
theorem lookup?_eq_some_iff {tree : FileTree} {name : Bytes} {folder : Location} {entry : Entry} :
    tree.lookup? (name :: folder) = some entry ↔ (name :: folder, entry) ∈ tree.entries := by
  have distinct := tree.distinct
  rw [lookup?, at?_cons]
  generalize tree.entries = entries at distinct
  induction entries with
  | nil => simp
  | cons head tail ih =>
    obtain ⟨key, value⟩ := head
    rw [List.map_cons, List.nodup_cons] at distinct
    by_cases same : name :: folder = key
    · subst same
      rw [List.lookup_cons_self, List.mem_cons]
      constructor
      · intro found
        cases found
        exact .inl rfl
      · rintro (first | later)
        · cases first
          rfl
        · exact absurd (List.mem_map.mpr ⟨_, later, rfl⟩) distinct.1
    · have different := beq_eq_false_iff_ne.mpr same
      rw [List.lookup_cons, different, List.mem_cons]
      refine (ih distinct.2).trans ⟨.inr, ?_⟩
      rintro (first | later)
      · exact absurd (congrArg Prod.fst first) same
      · exact later

/-- **What is removed is what the first tree finds and the second one does not find so.** -/
theorem mem_removed {before after : FileTree} {name : Bytes} {folder : Location} {entry : Entry} :
    (name :: folder, entry) ∈ removed before after ↔
      before.lookup? (name :: folder) = some entry ∧
        after.lookup? (name :: folder) ≠ some entry := by
  simp [removed, withoutThoseOf, lookup?_eq_some_iff]

/-- **What is made is what the second tree finds and the first one does not find so.** -/
theorem mem_made {before after : FileTree} {name : Bytes} {folder : Location} {entry : Entry} :
    (name :: folder, entry) ∈ made before after ↔
      after.lookup? (name :: folder) = some entry ∧
        before.lookup? (name :: folder) ≠ some entry := by
  simp [made, withoutThoseOf, lookup?_eq_some_iff]

end ApkFeatures.FileTree
