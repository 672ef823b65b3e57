/-
**The document type.**

The steps of a reader inside `<!DOCTYPE ... >`. Of its declarations only entities matter: the value
of an entity has its character references resolved and its references to other entities kept, and
the first declaration of a name holds. All other declarations are skipped.
-/
import ApkFeatures.Xml.Place

namespace ApkFeatures.Xml.Reader

/-- Between declarations. -/
def inDoctype (reader : Reader) (c : Char) : Except Fault Move :=
  if c = '>' then reader.goto (.content 0)
  else if c = '<' then reader.goto .doctypeMarkup
  else if c = '%' then reader.goto (.parameterReference [])
  else if isQuote c then reader.goto (.doctypeText c)
  else reader.goto .doctype

/-- After `<` between declarations. -/
def inDoctypeMarkup (reader : Reader) (c : Char) : Except Fault Move :=
  if c = '!' then reader.goto .doctypeBang
  else if c = '?' then reader.goto (.doctypeInstruction false)
  else if c = '/' ∨ isSpace c ∨ continuesName c then reader.goto .doctype
  else .error .unexpectedCharacter

/-- After `<!` between declarations. -/
def inDoctypeBang (reader : Reader) (c : Char) : Except Fault Move :=
  if c = '-' then reader.goto (.commentOpening true)
  else if c = 'E' ∨ c = 'A' ∨ c = 'N' then reader.goto (.ruleName [c])
  else .error .unexpectedCharacter

/-- In the keyword of a declaration. -/
def inRuleName (reader : Reader) (text : List Char) (c : Char) : Except Fault Move :=
  if 'A' ≤ c ∧ c ≤ 'Z' then reader.goto (.ruleName (c :: text))
  else if isSpace c then
    let keyword := gathered text
    if keyword = "ENTITY" then reader.goto .entityNameStart
    else if ["NOTATION", "ELEMENT", "ATTLIST"].contains keyword then reader.goto (.ruleRest none)
    else .error .unexpectedCharacter
  else .error .unexpectedCharacter

/-- In the rest of a declaration. -/
def inRuleRest (reader : Reader) (quote? : Option Char) (c : Char) : Except Fault Move :=
  match quote? with
  | some quote => reader.goto (.ruleRest (if c = quote then none else some quote))
  | none =>
    if c = '>' then reader.goto .doctype
    else reader.goto (.ruleRest (if isQuote c then some c else none))

/-- Before the name of an entity. -/
def inEntityNameStart (reader : Reader) (c : Char) : Except Fault Move :=
  if isSpace c then reader.goto .entityNameStart
  else if c = '%' then reader.goto .parameterNameStart
  else if beginsName c then reader.goto (.entityName [c])
  else .error .unexpectedCharacter

/-- Before the name of an entity for the document type only. -/
def inParameterNameStart (reader : Reader) (c : Char) : Except Fault Move :=
  if isSpace c then reader.goto .parameterNameStart
  else if beginsName c then reader.goto (.entityName [c, '%'])
  else .error .unexpectedCharacter

/-- In the name of an entity. -/
def inEntityName (reader : Reader) (text : List Char) (c : Char) : Except Fault Move :=
  if continuesName c then reader.goto (.entityName (c :: text))
  else if isSpace c then reader.goto (.entityValueStart (gathered text))
  else .error .unexpectedCharacter

/-- Before the value of an entity. One whose value is outside the document is known, but empty. -/
def inEntityValueStart (reader : Reader) (name : String) (c : Char) : Except Fault Move :=
  if isSpace c then reader.goto (.entityValueStart name)
  else if c = 'S' ∨ c = 'P' then (reader.declare name "").goto (.ruleRest none)
  else if isQuote c then reader.goto (.entityValue ⟨name, c, []⟩)
  else .error .unexpectedCharacter

/-- In the value of an entity. -/
def inEntityValue (reader : Reader) (entity : OpenEntity) (c : Char) : Except Fault Move :=
  if c = entity.quote then
    (reader.declare entity.name (gathered entity.text)).goto (.ruleRest none)
  else if c = '&' then reader.goto (.entityReference entity)
  else if c = '%' then reader.goto (.entityParameter entity [])
  else if !isAllowed reader.version c then .error .forbiddenCharacter
  else reader.goto (.entityValue { entity with text := c :: entity.text })

/-- After an ampersand in the value of an entity. -/
def inEntityReference (reader : Reader) (entity : OpenEntity) (c : Char) : Except Fault Move :=
  if c = entity.quote then .error .unexpectedCharacter
  else if c = '#' then reader.goto (.entityNumber entity [])
  else if !isAllowed reader.version c then .error .forbiddenCharacter
  else reader.goto (.entityValue { entity with text := c :: '&' :: entity.text })

/-- In the number of a character reference in the value of an entity. -/
def inEntityNumber (reader : Reader) (entity : OpenEntity) (number : List Char) (c : Char) :
    Except Fault Move :=
  if c = entity.quote then .error .unexpectedCharacter
  else if c = ';' then
    match characterReference? reader.version number.reverse with
    | some shown => reader.goto (.entityValue { entity with text := shown :: entity.text })
    | none => .error .invalidReference
  else reader.goto (.entityNumber entity (c :: number))

/-- In a reference to another entity in the value of an entity. -/
def inEntityParameter (reader : Reader) (entity : OpenEntity) (name : List Char) (c : Char) :
    Except Fault Move :=
  if continuesName c then reader.goto (.entityParameter entity (c :: name))
  else if c = ';' then
    match reader.entity? (gathered (name ++ ['%'])) with
    | some text =>
      reader.goto (.entityValue { entity with text := text.toList.reverse ++ entity.text })
    | none => .error .invalidReference
  else .error .unexpectedCharacter

/-- In a reference between declarations. -/
def inParameterReference (reader : Reader) (name : List Char) (c : Char) : Except Fault Move :=
  if continuesName c then reader.goto (.parameterReference (c :: name))
  else if c = ';' then
    match reader.entity? (gathered (name ++ ['%'])) with
    | some text => .ok ⟨{ reader with place := .doctype }, [], text.toList, none⟩
    | none => .error .invalidReference
  else .error .unexpectedCharacter

end ApkFeatures.Xml.Reader
