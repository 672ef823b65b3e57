/-
**Vocabularies.**

A vocabulary is the ordered list of the names of features: the columns of a table. A name that is
repeated has the position of its first occurrence.
-/

namespace ApkFeatures

/-- An ordered list of feature names. -/
structure Vocabulary where
  /-- The names, in column order. -/
  keys : List String

namespace Vocabulary

/-- The number of features. -/
def size (vocabulary : Vocabulary) : Nat := vocabulary.keys.length

/-- The column of a name. -/
def position? (vocabulary : Vocabulary) (key : String) : Option (Fin vocabulary.size) :=
  vocabulary.keys.finIdxOf? key

end Vocabulary

end ApkFeatures
