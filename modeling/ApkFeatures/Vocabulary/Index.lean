/-
**The columns of names.**

Whoever asks for many columns enters the names of a vocabulary in a table first, one after the other,
each with its column. A name that is there already keeps the column it has.

* `index` — the table.
* `getElem?_index` — a name is found at its column, and no other name is found.
-/
import Std.Data.HashMap
import ApkFeatures.Vocabulary.Basic

namespace ApkFeatures.Vocabulary

/-- The table with some more names, the first one at a column, unless they are in it. -/
def enter (columns : Std.HashMap String Nat) (keys : List String) (column : Nat) :
    Std.HashMap String Nat :=
  (keys.zipIdx column).foldl (fun columns (key, column) => columns.insertIfNew key column) columns

/-- The columns of the names of a vocabulary. -/
def index (vocabulary : Vocabulary) : Std.HashMap String Nat := enter ∅ vocabulary.keys 0

/-- What was in the table stays, and the other names have their first places. -/
theorem getElem?_enter (keys : List String) (key : String) :
    ∀ columns column, (enter columns keys column)[key]? =
      columns[key]?.or ((keys.idxOf? key).map (· + column)) := by
  induction keys with
  | nil => exact fun columns column => by simp [enter]
  | cons first rest ih =>
    intro columns column
    show (enter (columns.insertIfNew first column) rest (column + 1))[key]? = _
    rw [ih, Std.HashMap.getElem?_insertIfNew, List.idxOf?_cons]
    by_cases same : first = key
    · subst same
      by_cases taken : first ∈ columns
      · simp [taken]
      · simp [taken]
    · have later : ((rest.idxOf? key).map (· + 1)).map (· + column) =
          (rest.idxOf? key).map (· + (column + 1)) := by
        rw [Option.map_map]
        congr 1
        funext place
        exact Nat.add_right_comm _ _ _
      simp [same, later]

/-- **A name is found at its first column**, if the vocabulary has it. -/
theorem getElem?_index (vocabulary : Vocabulary) (key : String) :
    vocabulary.index[key]? = (vocabulary.position? key).map Fin.val := by
  rw [index, getElem?_enter, Std.HashMap.getElem?_empty, Option.none_or, position?,
    List.idxOf?_eq_map_finIdxOf?_val]
  simp only [Nat.add_zero, Option.map_id']
  rfl

end ApkFeatures.Vocabulary
