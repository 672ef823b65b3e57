/-
**Where an XML reader stands.**

The reader goes through a document one character at a time. `Place` says inside which construct it
stands and what it has gathered of it; `Reader` adds what it remembers of the document so far.
Gathered texts are kept with their last character first.
-/
import ApkFeatures.Xml.Character
import ApkFeatures.Text.Numeral
import ApkFeatures.Xml.Source

namespace ApkFeatures.Xml

/-- A start tag whose end has not been read. -/
structure Tag where
  /-- The name of the element. -/
  name : WrittenName
  /-- Its attributes other than declarations, the last one first. -/
  attributes : List (WrittenName × String)
  /-- Its namespace declarations, the first one first, since that one holds. -/
  declarations : Scope

/-- An attribute value whose closing quote has not been read. -/
structure OpenValue where
  /-- The tag it belongs to. -/
  tag : Tag
  /-- The name of the attribute. -/
  name : WrittenName
  /-- The quote that opened it. -/
  quote : Char
  /-- What has been read of it. -/
  text : List Char

/-- The declaration of an entity whose value has not been read. -/
structure OpenEntity where
  /-- The name, after `%` if the entity is for the document type only. -/
  name : String
  /-- The quote that opened its value. -/
  quote : Char
  /-- What has been read of the value. -/
  text : List Char

/-- The fields of the declaration at the beginning of a document. -/
inductive Field where
  /-- The version of XML. -/
  | version
  /-- The encoding of the document. -/
  | encoding
  /-- Whether the document stands alone. -/
  | standalone
deriving DecidableEq

/-- The name of a field. -/
def Field.name : Field → String
  | version => "version"
  | encoding => "encoding"
  | standalone => "standalone"

/-- The fields that may follow. -/
def Field.followers : Option Field → List Field
  | none => [version]
  | some version => [encoding, standalone]
  | some encoding => [standalone]
  | some standalone => []

/-- Inside which construct the reader stands. -/
inductive Place where
  /-- Between tags, after some closing brackets. -/
  | content (brackets : Nat)
  /-- After `<`. -/
  | markup
  /-- After `<!`. -/
  | bang
  /-- After `<!-`. -/
  | commentOpening (inDoctype : Bool)
  /-- In a comment, after some dashes. -/
  | comment (inDoctype : Bool) (dashes : Nat)
  /-- In the beginning of a character data section, before the rest of its keyword. -/
  | cdataOpening (expected : List Char)
  /-- In a character data section, after some closing brackets. -/
  | cdata (brackets : Nat)
  /-- In a reference, of content or of an attribute value. -/
  | reference (name : List Char) (value? : Option OpenValue)
  /-- In the name of a processing instruction. -/
  | instructionName (name : List Char)
  /-- After the question mark that follows such a name. -/
  | instructionNameEnd (name : List Char)
  /-- In a processing instruction, possibly after a question mark. -/
  | instruction (question : Bool)
  /-- In the declaration, after a field and possibly a space. -/
  | declaration (last? : Option Field) (spaced : Bool)
  /-- In the name of a field. -/
  | fieldName (field : Field) (name : List Char)
  /-- Before the equals sign of a field. -/
  | fieldEquals (field : Field)
  /-- Before the value of a field. -/
  | fieldQuote (field : Field)
  /-- In the value of a field. -/
  | fieldValue (field : Field) (quote : Char) (text : List Char)
  /-- After the question mark that ends the declaration. -/
  | declarationEnd
  /-- In the name of a start tag. -/
  | tagName (name : List Char)
  /-- In a start tag, before an attribute. -/
  | tagSpace (tag : Tag)
  /-- In the name of an attribute. -/
  | attributeName (tag : Tag) (name : List Char)
  /-- Before the equals sign of an attribute. -/
  | attributeEquals (tag : Tag) (name : WrittenName)
  /-- Before the value of an attribute. -/
  | attributeQuote (tag : Tag) (name : WrittenName)
  /-- In an attribute value, possibly after `<`. -/
  | attributeValue (value : OpenValue) (less : Bool)
  /-- After an attribute value. -/
  | attributeEnd (tag : Tag)
  /-- After the slash of an empty element. -/
  | emptyTag (tag : Tag)
  /-- In the name of an end tag. -/
  | closingName (name : List Char)
  /-- After the name of an end tag. -/
  | closingSpace (name : WrittenName)
  /-- In the beginning of the document type, before the rest of its keyword. -/
  | doctypeOpening (expected : List Char)
  /-- In the document type, between declarations. -/
  | doctype
  /-- In a quoted text of the document type. -/
  | doctypeText (quote : Char)
  /-- After `<` in the document type. -/
  | doctypeMarkup
  /-- After `<!` in the document type. -/
  | doctypeBang
  /-- In a processing instruction of the document type, possibly after a question mark. -/
  | doctypeInstruction (question : Bool)
  /-- In the keyword of a declaration of the document type. -/
  | ruleName (name : List Char)
  /-- Before the rest of a declaration ends, possibly in a quoted text. -/
  | ruleRest (quote? : Option Char)
  /-- Before the name of an entity. -/
  | entityNameStart
  /-- Before the name of an entity for the document type only. -/
  | parameterNameStart
  /-- In the name of an entity. -/
  | entityName (name : List Char)
  /-- Before the value of an entity. -/
  | entityValueStart (name : String)
  /-- In the value of an entity. -/
  | entityValue (entity : OpenEntity)
  /-- After an ampersand in the value of an entity. -/
  | entityReference (entity : OpenEntity)
  /-- In the number of a character reference in the value of an entity. -/
  | entityNumber (entity : OpenEntity) (number : List Char)
  /-- In a reference to another entity in the value of an entity. -/
  | entityParameter (entity : OpenEntity) (name : List Char)
  /-- In a reference between the declarations of the document type. -/
  | parameterReference (name : List Char)

/-- How far the document has come. -/
inductive Seen where
  /-- Nothing at all. -/
  | nothing
  /-- A declaration, a comment, an instruction or white space. -/
  | prolog
  /-- The document type. -/
  | doctype
  /-- An element. -/
  | element
deriving DecidableEq

/-- A reader of a document. -/
structure Reader where
  /-- Where it stands. -/
  place : Place
  /-- The version of the document. -/
  version : Version
  /-- How far the document has come. -/
  seen : Seen
  /-- The document begins with a byte order mark. -/
  marked : Bool
  /-- The open elements, the innermost first, each with the declarations in its scope. -/
  opened : List (WrittenName × Scope)
  /-- The declared entities, the first declaration of a name first. -/
  entities : List (String × String)

/-- A step of a reader. -/
structure Move where
  /-- The reader after it. -/
  reader : Reader
  /-- What it reports. -/
  events : List Event
  /-- The text of an entity to be read next. -/
  expansion : List Char
  /-- The encoding in which the document goes on, if it changes. -/
  encoding? : Option Encoding

namespace Reader

/-- The reader before the first character. -/
def start (marked : Bool) : Reader := ⟨.content 0, .v10, .nothing, marked, [], []⟩

/-- Stands at another place. -/
def goto (reader : Reader) (place : Place) : Except Fault Move :=
  .ok ⟨{ reader with place := place }, [], [], none⟩

/-- Notes that something stands before the document type. -/
def afterProlog (reader : Reader) : Reader :=
  { reader with seen := if reader.seen = .nothing then .prolog else reader.seen }

/-- The declarations in scope. -/
def scope (reader : Reader) : Scope :=
  match reader.opened with
  | [] => []
  | (_, scope) :: _ => scope

/-- The text of a declared entity. -/
def entity? (reader : Reader) (name : String) : Option String := reader.entities.lookup name

/-- Declares an entity, unless its name is declared. -/
def declare (reader : Reader) (name text : String) : Reader :=
  { reader with entities := reader.entities ++ [(name, text)] }

end Reader

/-- The text gathered at a place. -/
def gathered (text : List Char) : String := String.ofList text.reverse

/-- The character of a reference by number: hexadecimal digits after `x`, or decimal digits. -/
def characterReference? (version : Version) (number : List Char) : Option Char :=
  let value? :=
    match number with
    | 'x' :: digits =>
      if digits.isEmpty || !digits.all Text.isHexDigit then none
      else some (Text.numeral 16 digits)
    | digits =>
      if digits.isEmpty || !digits.all Char.isDigit then none else some (Text.numeral 10 digits)
  match value?.bind Text.scalar? with
  | none => none
  | some c => if isAllowed version c then some c else none

/-- The character of a reference by name, for the five names that need no declaration. -/
def predefined? : String → Option Char
  | "lt" => some '<'
  | "gt" => some '>'
  | "amp" => some '&'
  | "apos" => some (Char.ofNat 39)
  | "quot" => some '"'
  | _ => none

/-- A quote opens and closes values. -/
def isQuote (c : Char) : Bool := c = '"' || c.toNat = 39

end ApkFeatures.Xml
