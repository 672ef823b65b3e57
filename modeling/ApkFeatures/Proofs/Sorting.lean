/-
**Sorting by a key.**

Packages, tables and inputs are sorted by something that is read of them: a rank, or a name. Items
with the same key keep their order.

* `keyOrder` — one item comes before another one by its key, or along with it.
* `pairwise_sorted` — sorted items have ascending keys.
* `sublist_sorted` — items that are in order stay so.
-/

namespace ApkFeatures

variable {α β : Type} [LE β] [DecidableLE β] {key : α → β}

/-- An item comes before another one by its key, or along with it. -/
def keyOrder (key : α → β) (first second : α) : Bool := decide (key first ≤ key second)

theorem keyOrder_iff {first second : α} :
    keyOrder key first second = true ↔ key first ≤ key second := decide_eq_true_iff

variable [Std.IsLinearPreorder β]

theorem keyOrder_trans (first second third : α) (before : keyOrder key first second = true)
    (after : keyOrder key second third = true) : keyOrder key first third = true :=
  keyOrder_iff.mpr (Std.le_trans (keyOrder_iff.mp before) (keyOrder_iff.mp after))

theorem keyOrder_total (first second : α) :
    (keyOrder key first second || keyOrder key second first) = true := by
  rw [Bool.or_eq_true, keyOrder_iff, keyOrder_iff]
  exact Std.le_total

/-- **Sorted items have ascending keys.** -/
theorem pairwise_sorted (key : α → β) (items : List α) :
    (items.mergeSort (keyOrder key)).Pairwise fun first second => key first ≤ key second :=
  (List.pairwise_mergeSort keyOrder_trans keyOrder_total items).imp keyOrder_iff.mp

/-- Items that are in order stay so. -/
theorem sublist_sorted (key : α → β) {some items : List α}
    (ordered : some.Pairwise fun first second => key first ≤ key second)
    (among : some.Sublist items) : some.Sublist (items.mergeSort (keyOrder key)) :=
  List.sublist_mergeSort keyOrder_trans keyOrder_total (ordered.imp keyOrder_iff.mpr) among

end ApkFeatures
