/-
**Reading a settings file.**

A settings file has one field a line: a name, an equals sign, and a value that is a text or a truth
value. Comments go from a number sign to the end of their line. `Reader.step` takes one character;
`fields` reads a whole file.
-/
import ApkFeatures.Settings.Quoted

namespace ApkFeatures.Settings

/-- The value of a field. -/
inductive Value where
  /-- A truth value. -/
  | flag (value : Bool)
  /-- A text. -/
  | text (value : String)
deriving DecidableEq

/-- Where a reader of a settings file stands. -/
inductive Place where
  /-- At the beginning of a line. -/
  | line
  /-- In a comment. -/
  | comment
  /-- In a name without quotes. -/
  | name (text : List Char)
  /-- In a name between quotes. -/
  | quotedName (text : OpenText)
  /-- After a name. -/
  | afterName (name : String)
  /-- After the equals sign. -/
  | beforeValue (name : String)
  /-- In a value without quotes. -/
  | word (name : String) (text : List Char)
  /-- In a value between quotes. -/
  | quotedValue (name : String) (text : OpenText)
  /-- After a value. -/
  | afterValue

/-- A reader of a settings file. -/
structure Reader where
  /-- Where it stands. -/
  place : Place
  /-- The fields so far, the last one first. -/
  fields : List (String × Value)

namespace Reader

/-- Stands at another place. -/
def goto (reader : Reader) (place : Place) : Except Fault Reader :=
  .ok { reader with place := place }

/-- Adds a field. -/
def add (reader : Reader) (name : String) (value : Value) : Reader :=
  { reader with fields := (name, value) :: reader.fields }

/-- A blank within a line. -/
def isGap (c : Char) : Bool := c = ' ' || c = '\t'

/-- A quote of either kind. -/
def opensText (c : Char) : Bool := c = '"' || c.toNat = 39

/-- A character of a name without quotes. -/
def isNameChar (c : Char) : Bool := c.isAlphanum || c = '_' || c = '-'

/-- At the beginning of a line. -/
def atLine (reader : Reader) (c : Char) : Except Fault Reader :=
  if isGap c ∨ c = '\n' then reader.goto .line
  else if c = '#' then reader.goto .comment
  else if isNameChar c then reader.goto (.name [c])
  else if opensText c then reader.goto (.quotedName (.start c))
  else .error .unexpectedCharacter

/-- In a comment. -/
def inComment (reader : Reader) (c : Char) : Except Fault Reader :=
  if c = '\n' then reader.goto .line
  else if c = '\t' ∨ 0x20 ≤ c.toNat then reader.goto .comment
  else .error .unexpectedCharacter

/-- After a name. -/
def atName (reader : Reader) (name : String) (c : Char) : Except Fault Reader :=
  if isGap c then reader.goto (.afterName name)
  else if c = '=' then reader.goto (.beforeValue name)
  else .error .unexpectedCharacter

/-- In a name between quotes. -/
def inQuotedName (reader : Reader) (text : OpenText) (c : Char) : Except Fault Reader := do
  match ← text.step c with
  | .more text => reader.goto (.quotedName text)
  | .closed text =>
    if text.severalLines then .error .severalLines else reader.goto (.afterName text.value)
  | .closedBefore text => reader.atName text.value c

/-- Before a value. -/
def beforeValue (reader : Reader) (name : String) (c : Char) : Except Fault Reader :=
  if isGap c then reader.goto (.beforeValue name)
  else if opensText c then reader.goto (.quotedValue name (.start c))
  else if isNameChar c then reader.goto (.word name [c])
  else .error .unexpectedCharacter

/-- After a value. -/
def afterValue (reader : Reader) (c : Char) : Except Fault Reader :=
  if isGap c then reader.goto .afterValue
  else if c = '#' then reader.goto .comment
  else if c = '\n' then reader.goto .line
  else .error .unexpectedCharacter

/-- Ends a value without quotes. -/
def endWord (reader : Reader) (name : String) (text : List Char) : Except Fault Reader :=
  let ended : Reader := { reader with place := .afterValue }
  if text.reverse = "true".toList then .ok (ended.add name (.flag true))
  else if text.reverse = "false".toList then .ok (ended.add name (.flag false))
  else .error .unexpectedCharacter

/-- In a value without quotes. -/
def inWord (reader : Reader) (name : String) (text : List Char) (c : Char) :
    Except Fault Reader := do
  if isNameChar c then reader.goto (.word name (c :: text))
  else (← reader.endWord name text).afterValue c

/-- In a value between quotes. -/
def inQuotedValue (reader : Reader) (name : String) (text : OpenText) (c : Char) :
    Except Fault Reader := do
  match ← text.step c with
  | .more text => reader.goto (.quotedValue name text)
  | .closed text => (reader.add name (.text text.value)).goto .afterValue
  | .closedBefore text => (reader.add name (.text text.value)).afterValue c

/-- Takes one character. -/
def step (reader : Reader) (c : Char) : Except Fault Reader :=
  match reader.place with
  | .line => reader.atLine c
  | .comment => reader.inComment c
  | .name text =>
    if isNameChar c then reader.goto (.name (c :: text))
    else reader.atName (String.ofList text.reverse) c
  | .quotedName text => reader.inQuotedName text c
  | .afterName name => reader.atName name c
  | .beforeValue name => reader.beforeValue name c
  | .word name text => reader.inWord name text c
  | .quotedValue name text => reader.inQuotedValue name text c
  | .afterValue => reader.afterValue c

/-- Ends the file. -/
def finish (reader : Reader) : Except Fault (List (String × Value)) :=
  match reader.place with
  | .line | .comment | .afterValue => .ok reader.fields.reverse
  | .word name text => do .ok (← reader.endWord name text).fields.reverse
  | .quotedValue name text =>
    match text.phase with
    | .openedTwice => .ok (reader.add name (.text "")).fields.reverse
    | _ => .error .unexpectedEnd
  | _ => .error .unexpectedEnd

end Reader

/-- The text with every line end written as one character. -/
def withPlainLineEnds : List Char → List Char
  | '\r' :: '\n' :: rest => '\n' :: withPlainLineEnds rest
  | c :: rest => c :: withPlainLineEnds rest
  | [] => []

/-- The text without the byte order mark that may stand before it. -/
def withoutMark : List Char → List Char
  | [] => []
  | c :: rest => if c.toNat = 0xFEFF then rest else c :: rest

/-- The fields of a settings file, in their order. -/
def fields (text : List Char) : Except Fault (List (String × Value)) := do
  let reader ← (withPlainLineEnds (withoutMark text)).foldlM Reader.step ⟨.line, []⟩
  reader.finish

end ApkFeatures.Settings
