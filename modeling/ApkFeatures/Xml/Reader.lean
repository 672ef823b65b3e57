/-
**Reading an XML document.**

`Reader.step` takes one character, `run` feeds a reader the characters of a document and of the
entities it expands. A document may have several root elements, but no text outside of them.

* `read` — the events of a document up to its end or its first fault.
* `parse` — the same, with the wording of the fault.
-/
import ApkFeatures.Xml.Tag
import ApkFeatures.Xml.Declaration
import ApkFeatures.Xml.Doctype

namespace ApkFeatures.Xml

namespace Reader

/-- Between tags. Outside of all elements there is only white space, and inside of them a section
end may not stand alone. -/
def inContent (reader : Reader) (brackets : Nat) (c : Char) : Except Fault Move :=
  if c = '<' then reader.goto .markup
  else if isSpace c then reader.afterProlog.goto (.content 0)
  else if reader.opened.isEmpty then .error .unexpectedCharacter
  else if c = '&' then reader.goto (.reference [] none)
  else if c = '>' ∧ brackets = 2 then .error .unexpectedCharacter
  else if !isLiteral reader.version c then .error .forbiddenCharacter
  else reader.goto (.content (if c = ']' then min 2 (brackets + 1) else 0))

/-- After `<`. -/
def inMarkup (reader : Reader) (c : Char) : Except Fault Move :=
  if c = '!' then reader.goto .bang
  else if c = '?' then reader.goto (.instructionName [])
  else if c = '/' then
    if reader.opened.isEmpty then .error .unexpectedCharacter else reader.goto (.closingName [])
  else if beginsName c then reader.goto (.tagName [c])
  else .error .unexpectedCharacter

/-- After `<!`. -/
def inBang (reader : Reader) (c : Char) : Except Fault Move :=
  if c = '-' then reader.goto (.commentOpening false)
  else if c = '[' ∧ !reader.opened.isEmpty then reader.goto (.cdataOpening "CDATA[".toList)
  else if c = 'D' ∧ (reader.seen = .nothing ∨ reader.seen = .prolog) then
    reader.goto (.doctypeOpening "OCTYPE".toList)
  else .error .unexpectedCharacter

/-- In the beginning of a construct, before the rest of its keyword. -/
def inKeyword (reader : Reader) (expected : List Char) (again : List Char → Place)
    (done : Except Fault Move) (c : Char) : Except Fault Move :=
  match expected with
  | [] => .error .unexpectedCharacter
  | [last] => if c = last then done else .error .unexpectedCharacter
  | first :: others => if c = first then reader.goto (again others) else .error .unexpectedCharacter

/-- In a comment. Two dashes end it and stand nowhere else in it. -/
def inComment (reader : Reader) (inDoctype : Bool) (dashes : Nat) (c : Char) : Except Fault Move :=
  if dashes = 2 then
    if c = '>' then reader.goto (if inDoctype then .doctype else .content 0)
    else .error .unexpectedCharacter
  else if c = '-' then reader.goto (.comment inDoctype (dashes + 1))
  else if !inDoctype && !isAllowed reader.version c then .error .forbiddenCharacter
  else reader.goto (.comment inDoctype 0)

/-- In a character data section. -/
def inCdata (reader : Reader) (brackets : Nat) (c : Char) : Except Fault Move :=
  if c = '>' ∧ brackets = 2 then reader.goto (.content 0)
  else if !isAllowed reader.version c then .error .forbiddenCharacter
  else reader.goto (.cdata (if c = ']' then min 2 (brackets + 1) else 0))

/-- Goes on after a reference to a character. -/
def afterCharacter (reader : Reader) (value? : Option OpenValue) (shown : List Char) :
    Except Fault Move :=
  match value? with
  | none => reader.goto (.content 0)
  | some value =>
    reader.goto (.attributeValue { value with text := shown.reverse ++ value.text } false)

/-- In a reference. In an attribute value the text of an entity is taken as it is, in content it is
read like the document. -/
def inReference (reader : Reader) (name : List Char) (value? : Option OpenValue) (c : Char) :
    Except Fault Move :=
  if name.isEmpty && (beginsName c || c = '#') || !name.isEmpty && continuesName c then
    reader.goto (.reference (c :: name) value?)
  else if c ≠ ';' ∨ name.isEmpty then .error .unexpectedCharacter
  else
    match name.reverse with
    | '#' :: number =>
      match characterReference? reader.version number with
      | some shown => reader.afterCharacter value? [shown]
      | none => .error .invalidReference
    | named =>
      match predefined? (String.ofList named), reader.entity? (String.ofList named), value? with
      | some shown, _, _ => reader.afterCharacter value? [shown]
      | none, some text, some _ => reader.afterCharacter value? text.toList
      | none, some text, none => .ok ⟨{ reader with place := .content 0 }, [], text.toList, none⟩
      | none, none, _ => .error .invalidReference

/-- Takes one character. -/
def step (reader : Reader) (c : Char) : Except Fault Move :=
  match reader.place with
  | .content brackets => reader.inContent brackets c
  | .markup => reader.inMarkup c
  | .bang => reader.inBang c
  | .commentOpening inDoctype =>
    if c = '-' then reader.afterProlog.goto (.comment inDoctype 0) else .error .unexpectedCharacter
  | .comment inDoctype dashes => reader.inComment inDoctype dashes c
  | .cdataOpening expected =>
    reader.inKeyword expected .cdataOpening (reader.goto (.cdata 0)) c
  | .cdata brackets => reader.inCdata brackets c
  | .reference name value? => reader.inReference name value? c
  | .instructionName name => reader.inInstructionName name c
  | .instructionNameEnd name => reader.inInstructionNameEnd name c
  | .instruction question => reader.inInstruction question c
  | .declaration last? spaced => reader.inDeclaration last? spaced c
  | .fieldName field name => reader.inFieldName field name c
  | .fieldEquals field =>
    if isSpace c then reader.goto (.fieldEquals field)
    else if c = '=' then reader.goto (.fieldQuote field)
    else .error .unexpectedCharacter
  | .fieldQuote field =>
    if isSpace c then reader.goto (.fieldQuote field)
    else if isQuote c then reader.goto (.fieldValue field c [])
    else .error .unexpectedCharacter
  | .fieldValue field quote text => reader.inFieldValue field quote text c
  | .declarationEnd => if c = '>' then reader.goto (.content 0) else .error .unexpectedCharacter
  | .tagName name => reader.inTagName name c
  | .tagSpace tag => reader.inTagSpace tag c
  | .attributeName tag name => reader.inAttributeName tag name c
  | .attributeEquals tag name =>
    if isSpace c then reader.goto (.attributeEquals tag name)
    else if c = '=' then reader.goto (.attributeQuote tag name)
    else .error .unexpectedCharacter
  | .attributeQuote tag name =>
    if isSpace c then reader.goto (.attributeQuote tag name)
    else if isQuote c then reader.goto (.attributeValue ⟨tag, name, c, []⟩ false)
    else .error .unexpectedCharacter
  | .attributeValue value less => reader.inAttributeValue value less c
  | .attributeEnd tag => reader.inAttributeEnd tag c
  | .emptyTag tag => if c = '>' then reader.openElement tag true else .error .unexpectedCharacter
  | .closingName name => reader.inClosingName name c
  | .closingSpace name =>
    if isSpace c then reader.goto (.closingSpace name)
    else if c = '>' then reader.closeElement name
    else .error .unexpectedCharacter
  | .doctypeOpening expected =>
    reader.inKeyword expected .doctypeOpening
      (({ reader with seen := .doctype } : Xml.Reader).goto .doctype) c
  | .doctype => reader.inDoctype c
  | .doctypeText quote => reader.goto (if c = quote then .doctype else .doctypeText quote)
  | .doctypeMarkup => reader.inDoctypeMarkup c
  | .doctypeBang => reader.inDoctypeBang c
  | .doctypeInstruction question =>
    reader.goto (if question && c = '>' then .doctype else .doctypeInstruction (c = '?'))
  | .ruleName name => reader.inRuleName name c
  | .ruleRest quote? => reader.inRuleRest quote? c
  | .entityNameStart => reader.inEntityNameStart c
  | .parameterNameStart => reader.inParameterNameStart c
  | .entityName name => reader.inEntityName name c
  | .entityValueStart name => reader.inEntityValueStart name c
  | .entityValue entity => reader.inEntityValue entity c
  | .entityReference entity => reader.inEntityReference entity c
  | .entityNumber entity number => reader.inEntityNumber entity number c
  | .entityParameter entity name => reader.inEntityParameter entity name c
  | .parameterReference name => reader.inParameterReference name c

/-- The document may end: all elements are closed, and there was one. -/
def mayEnd (reader : Reader) : Bool :=
  match reader.place with
  | .content _ => reader.opened.isEmpty && reader.seen = .element
  | _ => false

end Reader

/-- What a move leaves to read. -/
def Move.source (move : Move) (source : Source) : Except Fault Source :=
  ({ source with encoding := move.encoding?.getD source.encoding } : Source).expand move.expansion

/-- Reads to the end of the document or to its first fault. -/
def run (reader : Reader) (source : Source) (reported : List Event) : List Event × Option Fault :=
  match read : source.next? with
  | .error fault => (reported.reverse, some fault)
  | .ok none => (reported.reverse, if reader.mayEnd then none else some .unexpectedEnd)
  | .ok (some (c, after)) =>
    match reader.step c with
    | .error fault => (reported.reverse, some fault)
    | .ok move =>
      match expanded : move.source after with
      | .error fault => ((move.events.reverse ++ reported).reverse, some fault)
      | .ok source' =>
        have : Source.Smaller source'.size source.size := by
          have first := Source.next?_decreases read
          rcases Source.expand_decreases expanded with same | less
          · rw [same]; exact first
          · exact Source.Smaller.trans less first
        run move.reader source' (move.events.reverse ++ reported)
termination_by source.size
decreasing_by exact this

/-- The byte order mark, which may stand before a document. -/
def byteOrderMark : Char := Char.ofNat 0xFEFF

/-- The events of a document, and the fault that ends them if there is one. -/
def read (text : List Char) : List Event × Option Fault :=
  match text with
  | [] => run (.start false) ⟨[], [], 0, .utf8⟩ []
  | c :: rest =>
    if c = byteOrderMark then run (.start true) ⟨[], rest, 0, .utf8⟩ []
    else run (.start false) ⟨[], c :: rest, 0, .utf8⟩ []

/-- The reader of this library. -/
def parse : Parser := fun text => ((read text).1, (read text).2.map Fault.message)

end ApkFeatures.Xml
