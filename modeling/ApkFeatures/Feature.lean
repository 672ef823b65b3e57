/-
**Feature vectors.**

A feature vector gives each column of a vocabulary a value of one byte. Its width is the size of the
vocabulary by its type, so every row written for a vocabulary has as many cells as its header.

* `set?` — changes the value of a name, if the vocabulary has it.
* `header`, `row`, `csv` — the vector as a table of two lines.
-/
import ApkFeatures.Vocabulary.Basic

namespace ApkFeatures

/-- A value for every column of a vocabulary. -/
structure FeatureVector (vocabulary : Vocabulary) where
  /-- The values, in column order. -/
  values : Vector UInt8 vocabulary.size

/-- A column that comes before the features, with the value in its row. -/
structure Identifier where
  /-- The name of the column. -/
  column : String
  /-- The value. -/
  value : String

/-- Cells joined by commas, after the identifier if there is one. -/
def tableLine (identifier? : Option String) (cells : List String) : String :=
  match identifier? with
  | none => ",".intercalate cells
  | some identifier => identifier ++ "," ++ ",".intercalate cells

/-- The names of the columns. -/
def Vocabulary.header (vocabulary : Vocabulary) (column? : Option String) : String :=
  tableLine column? vocabulary.keys

namespace FeatureVector

variable {vocabulary : Vocabulary}

/-- The vector of zeros. -/
def zero (vocabulary : Vocabulary) : FeatureVector vocabulary :=
  ⟨Vector.replicate vocabulary.size 0⟩

/-- Sets the value of a name; none if the vocabulary does not have it. -/
def set? (features : FeatureVector vocabulary) (key : String) (value : UInt8) :
    Option (FeatureVector vocabulary) :=
  (vocabulary.position? key).map fun column =>
    ⟨features.values.set column.val value column.isLt⟩

/-- Sets the value of a name that the vocabulary has, and leaves the vector alone otherwise. -/
def set (features : FeatureVector vocabulary) (key : String) (value : UInt8) :
    FeatureVector vocabulary :=
  (features.set? key value).getD features

/-- The vector that is one at the given names and zero elsewhere. -/
def ofNames (vocabulary : Vocabulary) (names : List String) : FeatureVector vocabulary :=
  names.foldl (fun features name => features.set name 1) (zero vocabulary)

/-- The value of a name. -/
def get? (features : FeatureVector vocabulary) (key : String) : Option UInt8 :=
  (vocabulary.position? key).map fun column => features.values[column]

/-- The names with their values, in column order. -/
def toList (features : FeatureVector vocabulary) : List (String × UInt8) :=
  vocabulary.keys.zip features.values.toList

/-- The number of values other than zero. -/
def found (features : FeatureVector vocabulary) : Nat :=
  (features.values.toList.filter (· ≠ 0)).length

/-- The values as a line of a table, after an identifier if there is one. -/
def row (features : FeatureVector vocabulary) (identifier? : Option String) : String :=
  tableLine identifier? (features.values.toList.map fun value => toString value.toNat)

/-- The vector as a table: the names and one row, each line ended. -/
def csv (features : FeatureVector vocabulary) (identifier? : Option Identifier) : String :=
  vocabulary.header (identifier?.map Identifier.column) ++ "\n" ++
    features.row (identifier?.map Identifier.value) ++ "\n"

end FeatureVector

end ApkFeatures
