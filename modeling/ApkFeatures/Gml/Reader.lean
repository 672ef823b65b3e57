/-
**Reading a call graph file.**

The reader goes through the tokens once and keeps the lists that are still open, the innermost
first. A token either extends what has been read or is a fault, so the file is refused at its first
fault and never accepted in part.

* `Partial.push` — one token: a key waits for its value, a value ends its entry, a bracket opens or
  closes a list.
* `Document.parse` — a whole file.
-/
import ApkFeatures.Gml.Token

namespace ApkFeatures.Gml

/-- What has been read of a document. -/
structure Partial where
  /-- The entries before each open list with the key of that list, the innermost list first. Entries
  are in reverse order. -/
  outer : List (List Entry × String)
  /-- The entries of the innermost list, the last one first. -/
  entries : List Entry
  /-- A key that waits for its value. -/
  key? : Option String

namespace Partial

/-- Nothing has been read. -/
def empty : Partial := ⟨[], [], none⟩

/-- Gives its value to the key that waits for it. -/
def give (partialRead : Partial) (key : String) (value : Value) : Partial :=
  ⟨partialRead.outer, (key, value) :: partialRead.entries, none⟩

/-- Reads one token. -/
def push (partialRead : Partial) (token : Token) : Except Reason Partial :=
  match partialRead.key? with
  | none =>
    match token with
    | .key name => .ok { partialRead with key? := some name }
    | .closing =>
      match partialRead.outer with
      | [] => .error (.expectedKey .closing)
      | (before, key) :: outer =>
        .ok ⟨outer, (key, .list partialRead.entries.reverse) :: before, none⟩
    | found => .error (.expectedKey found)
  | some key =>
    match token with
    | .int value => .ok (partialRead.give key (.int value))
    | .real value => .ok (partialRead.give key (.real value))
    | .text value => .ok (partialRead.give key (.text value))
    | .opening =>
      if partialRead.outer.length < depthLimit then
        .ok ⟨(partialRead.entries, key) :: partialRead.outer, [], none⟩
      else .error .tooDeep
    | found => .error (.expectedValue key found)

/-- Ends the document. -/
def finish (partialRead : Partial) : Except Reason Document :=
  match partialRead.key?, partialRead.outer with
  | some key, _ => .error (.missingValue key)
  | none, _ :: _ => .error .unclosedList
  | none, [] => .ok partialRead.entries.reverse

/-- Reads the tokens of the source to its end. -/
def read (partialRead : Partial) (line : Nat) (source : List Char) : Except Fault Document :=
  match found : next? line source with
  | .error fault => .error fault
  | .ok (reached, none) => partialRead.finish.mapError fun reason => ⟨reached, reason⟩
  | .ok (reached, some lexeme) =>
    have : lexeme.rest.length < source.length := next?_length_lt found
    match partialRead.push lexeme.token with
    | .error reason => .error ⟨reached, reason⟩
    | .ok longer => longer.read reached lexeme.rest
termination_by source.length

end Partial

/-- Reads a call graph file. -/
def parse (source : List Char) : Except Fault Document := Partial.empty.read 1 source

end ApkFeatures.Gml
