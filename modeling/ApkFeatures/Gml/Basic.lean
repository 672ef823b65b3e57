/-
**Documents of call graph files.**

A document is a list of entries, each a key with a value; a value is an integer, a real, a text or
a nested list of entries. The order of entries and their repetitions are kept, since a call graph
repeats the same key for every method.
-/
import ApkFeatures.Number.Binary64

namespace ApkFeatures.Gml

open ApkFeatures.Number

/-- The value of a key. -/
inductive Value where
  /-- An integer of 64 bits. -/
  | int (value : Int64)
  /-- A real number. -/
  | real (value : Binary64)
  /-- A text, its character references resolved. -/
  | text (value : String)
  /-- A nested list of entries. -/
  | list (entries : List (String × Value))

/-- A key with its value. -/
abbrev Entry := String × Value

/-- A document, from its first entry to its last. -/
abbrev Document := List Entry

namespace Value

/-- The integer, if the value is one. -/
def int? : Value → Option Int64
  | int value => some value
  | _ => none

/-- The text, if the value is one. -/
def text? : Value → Option String
  | text value => some value
  | _ => none

/-- The nested entries, if the value is a list. -/
def list? : Value → Option (List Entry)
  | list entries => some entries
  | _ => none

end Value

/-- The value of the first entry with the key. -/
def lookup (entries : List Entry) (key : String) : Option Value :=
  (entries.find? fun entry => entry.1 == key).map Prod.snd

/-- Lists may be nested this many levels below the document. -/
def depthLimit : Nat := 64

end ApkFeatures.Gml
