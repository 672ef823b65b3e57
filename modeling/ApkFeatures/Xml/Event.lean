/-
**Elements of an XML document.**

A reader reports where elements begin and end, with the attributes of each. A written name may have
a qualifier before a colon; the namespace declarations in scope turn it into a name with a
namespace. An unqualified attribute has no namespace, an unqualified element has the default one.

* `Event`, `Parser` — what a reader of XML delivers, and what any such reader is.
* `Fault` — what keeps a document from being well-formed.
* `Scope.resolve` — the namespace of a qualifier.
-/

namespace ApkFeatures.Xml

/-- A name as it is written. -/
structure WrittenName where
  /-- What stands before the colon, if there is one. -/
  qualifier? : Option String
  /-- The rest of the name. -/
  localName : String
deriving DecidableEq

/-- A name with its namespace. -/
structure Name where
  /-- The namespace, if the name is in one. -/
  uri? : Option String
  /-- The name within the namespace. -/
  localName : String
deriving DecidableEq

/-- An attribute of an element. -/
structure Attribute where
  /-- Its name. -/
  name : Name
  /-- Its value, references resolved. -/
  value : String
deriving DecidableEq

/-- What a reader reports. -/
inductive Event where
  /-- An element begins. -/
  | start (name : Name) (attributes : List Attribute)
  /-- The innermost open element ends. -/
  | finish
deriving DecidableEq

/-- A reader of XML: the events of a text in their order, and what is said of the fault that ends
them if there is one. Where elements begin and end is all that is asked of it; the texts, the
comments and the instructions that stand between them are left out. -/
abbrev Parser := List Char → List Event × Option String

/-- What keeps a document from being well-formed. -/
inductive Fault where
  /-- A character has no place where it stands. -/
  | unexpectedCharacter
  /-- The document ends too early. -/
  | unexpectedEnd
  /-- A character may not occur in a document. -/
  | forbiddenCharacter
  /-- A written name has an empty part or two colons. -/
  | malformedName
  /-- A name uses a qualifier that is reserved. -/
  | reservedQualifier
  /-- A name uses a qualifier that is not declared. -/
  | unboundQualifier
  /-- A namespace declaration is not allowed. -/
  | invalidDeclaration
  /-- An element has the same attribute twice. -/
  | repeatedAttribute
  /-- An end tag does not belong to the innermost open element. -/
  | mismatchedTag
  /-- A reference is to no entity or no character. -/
  | invalidReference
  /-- Entities expand to one another too often. -/
  | entityTooDeep
  /-- The declared version is unknown. -/
  | unknownVersion
  /-- The declared encoding is unknown, or is not the one of the document. -/
  | unknownEncoding
  /-- A processing instruction has no name, or a reserved one. -/
  | invalidInstruction
deriving DecidableEq

/-- The wording of a fault. -/
def Fault.message : Fault → String
  | unexpectedCharacter => "unexpected character"
  | unexpectedEnd => "unexpected end"
  | forbiddenCharacter => "forbidden character"
  | malformedName => "malformed name"
  | reservedQualifier => "reserved qualifier"
  | unboundQualifier => "unbound qualifier"
  | invalidDeclaration => "invalid namespace declaration"
  | repeatedAttribute => "repeated attribute"
  | mismatchedTag => "mismatched tag"
  | invalidReference => "invalid reference"
  | entityTooDeep => "entities nested too deeply"
  | unknownVersion => "unknown version"
  | unknownEncoding => "unknown encoding"
  | invalidInstruction => "invalid processing instruction"

/-! ### Names -/

/-- The parts of a written name: at most one colon, and nothing empty beside it. -/
def WrittenName.ofText? (text : List Char) : Option WrittenName :=
  match text.splitOn ':' with
  | [single] => if single.isEmpty then none else some ⟨none, String.ofList single⟩
  | [qualifier, single] =>
    if qualifier.isEmpty || single.isEmpty then none
    else some ⟨some (String.ofList qualifier), String.ofList single⟩
  | _ => none

/-- The namespace of the qualifier `xml`. -/
def xmlNamespace : String := "http://www.w3.org/XML/1998/namespace"

/-- The namespace of the qualifier `xmlns`. -/
def declarationNamespace : String := "http://www.w3.org/2000/xmlns/"

/-- Declarations of namespaces by their qualifiers, the empty one being the default. -/
abbrev Scope := List (String × String)

/-- The declarations that hold everywhere. -/
def outerScope : Scope := [("", ""), ("xml", xmlNamespace), ("xmlns", declarationNamespace)]

/-- The name of an element or attribute under its qualifier. A default that is empty gives no
namespace. -/
def Scope.resolve (scope : Scope) (qualifier localName : String) : Except Fault Name :=
  match (scope ++ outerScope).lookup qualifier with
  | none => .error .unboundQualifier
  | some uri => .ok ⟨if uri = "" then none else some uri, localName⟩

/-- The name of an element. -/
def Scope.element (scope : Scope) (written : WrittenName) : Except Fault Name :=
  scope.resolve (written.qualifier?.getD "") written.localName

/-- The name of an attribute. -/
def Scope.attribute (scope : Scope) (written : WrittenName) : Except Fault Name :=
  match written.qualifier? with
  | none => .ok ⟨none, written.localName⟩
  | some qualifier => scope.resolve qualifier written.localName

end ApkFeatures.Xml
