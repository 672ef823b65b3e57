/-
**JSON documents.**

A value is written by being visited: a list or an object is begun and ended, what stands in it comes
between, and every item and every member is announced before its value. A path stands for its text,
and what becomes of one that has none is up to the one who writes.

* `JsonValue.visits` — what is met in a value, in order.
-/
import ApkFeatures.FilePath

namespace ApkFeatures

/-- A JSON value; a path stands for its text. -/
inductive JsonValue where
  /-- No value. -/
  | null
  /-- A number. -/
  | number (n : Nat)
  /-- A text. -/
  | text (s : String)
  /-- A path. -/
  | path (p : FilePath)
  /-- A list of values. -/
  | array (items : List JsonValue)
  /-- Values with their keys. -/
  | object (members : List (String × JsonValue))

namespace JsonValue

/-- What is met on the way through a value. -/
inductive Visit where
  /-- There is no value. -/
  | null
  /-- There is a number. -/
  | number (n : Nat)
  /-- There is a text. -/
  | text (s : String)
  /-- There is a path. -/
  | path (p : FilePath)
  /-- A list begins. -/
  | arrayStart
  /-- The next item of a list follows. -/
  | item
  /-- A list ends. -/
  | arrayEnd
  /-- An object begins. -/
  | objectStart
  /-- The member of an object with a key follows. -/
  | member (key : String)
  /-- An object ends. -/
  | objectEnd
deriving DecidableEq

mutual

/-- What is met in a value. -/
def visits : JsonValue → List Visit
  | null => [.null]
  | number n => [.number n]
  | text s => [.text s]
  | path p => [.path p]
  | array items => .arrayStart :: (itemVisits items ++ [.arrayEnd])
  | object members => .objectStart :: (memberVisits members ++ [.objectEnd])

/-- What is met in the items of a list. -/
def itemVisits : List JsonValue → List Visit
  | [] => []
  | item :: items => .item :: (visits item ++ itemVisits items)

/-- What is met in the members of an object. -/
def memberVisits : List (String × JsonValue) → List Visit
  | [] => []
  | (key, value) :: members => .member key :: (visits value ++ memberVisits members)

end

end JsonValue

end ApkFeatures
