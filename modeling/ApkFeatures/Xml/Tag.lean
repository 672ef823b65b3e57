/-
**Tags.**

The steps of a reader inside start tags, attributes and end tags. When a start tag ends, the names
of its element and attributes are resolved with the declarations of the tag itself before those of
the elements around it.
-/
import ApkFeatures.Xml.Place

namespace ApkFeatures.Xml.Reader

/-- The written name of an element; the two qualifiers that are always bound are reserved. -/
def elementName (text : List Char) : Except Fault WrittenName :=
  match WrittenName.ofText? text.reverse with
  | none => .error .malformedName
  | some written =>
    if written.qualifier? = some "xml" ∨ written.qualifier? = some "xmlns" then
      .error .reservedQualifier
    else .ok written

/-- Ends a start tag. -/
def openElement (reader : Reader) (tag : Tag) (isEmpty : Bool) : Except Fault Move := do
  let scope := tag.declarations ++ reader.scope
  let name ← scope.element tag.name
  let attributes ← tag.attributes.reverse.mapM fun (written, value) => do
    .ok (⟨← scope.attribute written, value⟩ : Attribute)
  let after := { reader with place := .content 0, seen := .element }
  if isEmpty then .ok ⟨after, [.start name attributes, .finish], [], none⟩
  else
    .ok ⟨{ after with opened := (tag.name, scope) :: reader.opened }, [.start name attributes], [],
      none⟩

/-- Ends an end tag. -/
def closeElement (reader : Reader) (written : WrittenName) : Except Fault Move :=
  match reader.opened with
  | [] => .error .mismatchedTag
  | (name, _) :: opened =>
    if written = name then
      .ok ⟨{ reader with place := .content 0, opened := opened }, [.finish], [], none⟩
    else .error .mismatchedTag

/-- Adds an attribute to its tag, or a namespace declaration to those of the tag. -/
def addAttribute (tag : Tag) (name : WrittenName) (value : String) : Except Fault Tag :=
  if name.qualifier? = some "xmlns" then
    if name.localName = "xmlns" then .error .invalidDeclaration
    else if name.localName = "xml" ∧ value ≠ xmlNamespace then .error .invalidDeclaration
    else if value = "" then .error .invalidDeclaration
    else .ok { tag with declarations := tag.declarations ++ [(name.localName, value)] }
  else if name = ⟨none, "xmlns"⟩ then
    if ["xmlns", "xml", declarationNamespace, xmlNamespace].contains value then
      .error .invalidDeclaration
    else .ok { tag with declarations := tag.declarations ++ [("", value)] }
  else .ok { tag with attributes := (name, value) :: tag.attributes }

/-- In the name of a start tag. -/
def inTagName (reader : Reader) (text : List Char) (c : Char) : Except Fault Move := do
  if continuesName c then reader.goto (.tagName (c :: text))
  else
    let tag : Tag := ⟨← elementName text, [], []⟩
    if c = '>' then reader.openElement tag false
    else if c = '/' then reader.goto (.emptyTag tag)
    else if isSpace c then reader.goto (.tagSpace tag)
    else .error .unexpectedCharacter

/-- In a start tag, before an attribute. -/
def inTagSpace (reader : Reader) (tag : Tag) (c : Char) : Except Fault Move :=
  if c = '>' then reader.openElement tag false
  else if c = '/' then reader.goto (.emptyTag tag)
  else if isSpace c then reader.goto (.tagSpace tag)
  else if beginsName c then reader.goto (.attributeName tag [c])
  else .error .unexpectedCharacter

/-- In the name of an attribute. -/
def inAttributeName (reader : Reader) (tag : Tag) (text : List Char) (c : Char) :
    Except Fault Move :=
  if continuesName c then reader.goto (.attributeName tag (c :: text))
  else
    match WrittenName.ofText? text.reverse with
    | none => .error .malformedName
    | some name =>
      if tag.attributes.any fun entry => entry.1 = name then .error .repeatedAttribute
      else if c = '=' then reader.goto (.attributeQuote tag name)
      else if isSpace c then reader.goto (.attributeEquals tag name)
      else .error .unexpectedCharacter

/-- In an attribute value. An opening bracket may only stand before a slash. -/
def inAttributeValue (reader : Reader) (value : OpenValue) (less : Bool) (c : Char) :
    Except Fault Move := do
  if less && c ≠ '/' then .error .unexpectedCharacter
  else if c = value.quote then
    reader.goto (.attributeEnd (← addAttribute value.tag value.name (gathered value.text)))
  else if c = '&' then reader.goto (.reference [] (some value))
  else if !isLiteral reader.version c then .error .forbiddenCharacter
  else reader.goto (.attributeValue { value with text := c :: value.text } (c = '<'))

/-- After an attribute value. -/
def inAttributeEnd (reader : Reader) (tag : Tag) (c : Char) : Except Fault Move :=
  if c = '>' then reader.openElement tag false
  else if c = '/' then reader.goto (.emptyTag tag)
  else if isSpace c then reader.goto (.tagSpace tag)
  else .error .unexpectedCharacter

/-- In the name of an end tag. -/
def inClosingName (reader : Reader) (text : List Char) (c : Char) : Except Fault Move := do
  if continuesName c then reader.goto (.closingName (c :: text))
  else
    let written ← elementName text
    if c = '>' then reader.closeElement written
    else if isSpace c then reader.goto (.closingSpace written)
    else .error .unexpectedCharacter

end ApkFeatures.Xml.Reader
