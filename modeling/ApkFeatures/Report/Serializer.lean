/-
**Serializers of JSON.**

A serializer writes a value while it is led through it: it answers every visit with some text, and
goes on or refuses to. So a serializer that refuses a value has written what comes before.

* `Serializer` — what any serializer is.
* `Serializer.serialize` — what it writes of a value.
-/
import ApkFeatures.Report.Json

namespace ApkFeatures

/-- A serializer of JSON. -/
structure Serializer where
  /-- What it remembers of the visits so far. -/
  State : Type
  /-- What it remembers in the beginning. -/
  start : State
  /-- What it writes for a visit, and how it goes on, or why it does not. -/
  visit : State → JsonValue.Visit → String × Except String State

/-- What a serializer has written, piece by piece, and why it did not go on if it did not. -/
structure Serialized where
  /-- The pieces. -/
  pieces : List String
  /-- What the serializer says when it refuses to go on. -/
  refusal? : Option String

namespace Serialized

/-- The pieces as one text. -/
def text (serialized : Serialized) : String := String.join serialized.pieces

/-- The same after another piece. -/
def after (piece : String) (serialized : Serialized) : Serialized :=
  { serialized with pieces := piece :: serialized.pieces }

end Serialized

namespace Serializer

/-- What a serializer writes for some visits. -/
def follow (serializer : Serializer) : serializer.State → List JsonValue.Visit → Serialized
  | _, [] => ⟨[], none⟩
  | state, visit :: later =>
    match serializer.visit state visit with
    | (piece, .ok next) => (serializer.follow next later).after piece
    | (piece, .error complaint) => ⟨[piece], some complaint⟩

/-- What a serializer writes of a value. -/
def serialize (serializer : Serializer) (value : JsonValue) : Serialized :=
  serializer.follow serializer.start value.visits

end Serializer

end ApkFeatures
