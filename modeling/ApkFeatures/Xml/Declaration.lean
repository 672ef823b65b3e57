/-
**Processing instructions and the declaration of a document.**

The steps of a reader inside `<? ... ?>`. An instruction named `xml` is the declaration of the
document: it stands at the very beginning and has a version, then possibly an encoding, then
possibly whether the document stands alone. No other instruction has that name in any case.
-/
import ApkFeatures.Xml.Place

namespace ApkFeatures.Xml.Reader

/-- The characters of a text, without the case of ASCII letters. -/
def lower (text : String) : List Char := text.toList.map Char.toLower

/-- The label names an encoding if one of the two begins with the other, in any case. -/
def matchesLabel (label value : String) : Bool :=
  label.toList.isPrefixOf (lower value) || (lower value).isPrefixOf label.toList

/-- The encoding in which a document goes on after declaring one. A document with a byte order mark
has said which it is, and one without it is not in 16-bit units. -/
def encodingOf (marked : Bool) (value : String) : Except Fault Encoding :=
  if matchesLabel "utf-8" value || matchesLabel "utf8" value then .ok .utf8
  else if marked then .error .unknownEncoding
  else if matchesLabel "iso-8859-1" value || matchesLabel "latin1" value then .ok .latin1
  else if matchesLabel "utf-16" value || matchesLabel "utf16" value then .error .unknownEncoding
  else if matchesLabel "ascii" value || matchesLabel "us-ascii" value then .ok .ascii
  else .error .unknownEncoding

/-- Ends a field of the declaration. -/
def setField (reader : Reader) (field : Field) (value : String) : Except Fault Move := do
  let place : Place := .declaration (some field) false
  match field with
  | .version =>
    if value = "1.0" then reader.goto place
    else if value = "1.1" then ({ reader with version := .v11 } : Xml.Reader).goto place
    else .error .unknownVersion
  | .encoding =>
    let encoding ← encodingOf reader.marked value
    .ok ⟨{ reader with place := place }, [], [], some encoding⟩
  | .standalone =>
    if value = "yes" ∨ value = "no" then reader.goto place else .error .unexpectedCharacter

/-- In the declaration, between fields. -/
def inDeclaration (reader : Reader) (last? : Option Field) (spaced : Bool) (c : Char) :
    Except Fault Move :=
  if isSpace c then reader.goto (.declaration last? true)
  else if c = '?' ∧ last?.isSome then reader.goto .declarationEnd
  else if spaced then
    match (Field.followers last?).find? fun field => field.name.toList.head? = some c with
    | some field => reader.goto (.fieldName field [c])
    | none => .error .unexpectedCharacter
  else .error .unexpectedCharacter

/-- In the name of a field. -/
def inFieldName (reader : Reader) (field : Field) (text : List Char) (c : Char) :
    Except Fault Move :=
  if continuesName c then reader.goto (.fieldName field (c :: text))
  else if gathered text ≠ field.name then .error .unexpectedCharacter
  else if c = '=' then reader.goto (.fieldQuote field)
  else if isSpace c then reader.goto (.fieldEquals field)
  else .error .unexpectedCharacter

/-- In the value of a field. -/
def inFieldValue (reader : Reader) (field : Field) (quote : Char) (text : List Char) (c : Char) :
    Except Fault Move :=
  if c = quote then reader.setField field (gathered text)
  else if c = '<' ∨ c = '&' then .error .unexpectedCharacter
  else if !isLiteral reader.version c then .error .forbiddenCharacter
  else reader.goto (.fieldValue field quote (c :: text))

/-- The name is `xml` in some case. -/
def isReservedInstruction (name : String) : Bool := lower name == "xml".toList

/-- In the name of a processing instruction. -/
def inInstructionName (reader : Reader) (text : List Char) (c : Char) : Except Fault Move :=
  if text.isEmpty && beginsName c || !text.isEmpty && continuesName c then
    reader.goto (.instructionName (c :: text))
  else if c = '?' then reader.goto (.instructionNameEnd text)
  else if isSpace c then
    if gathered text = "xml" ∧ reader.seen = .nothing then
      reader.afterProlog.goto (.declaration none true)
    else if isReservedInstruction (gathered text) then .error .invalidInstruction
    else reader.afterProlog.goto (.instruction false)
  else .error .unexpectedCharacter

/-- After the question mark behind the name of an instruction without data. -/
def inInstructionNameEnd (reader : Reader) (text : List Char) (c : Char) : Except Fault Move :=
  if c ≠ '>' then .error .unexpectedCharacter
  else if text.isEmpty || isReservedInstruction (gathered text) then .error .invalidInstruction
  else reader.afterProlog.goto (.content 0)

/-- In the data of a processing instruction. -/
def inInstruction (reader : Reader) (question : Bool) (c : Char) : Except Fault Move :=
  if question && c = '>' then reader.goto (.content 0)
  else if !isAllowed reader.version c then .error .forbiddenCharacter
  else reader.goto (.instruction (c = '?'))

end ApkFeatures.Xml.Reader
