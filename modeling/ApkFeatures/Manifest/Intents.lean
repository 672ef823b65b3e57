/-
**Intent actions that the components of a manifest declare.**

A declaration is an `action` element directly inside an `intent-filter` of an activity, a receiver
or a service that is not itself a root element, all three without a namespace. An action that
several kinds of components declare gets the largest code of them.

* `Scan.step` — one event of the document.
* `Manifest.scan` — the declarations of a sequence of events.
* `Manifest.intents` — the features of a document as a reader delivers it, or what the reader says of
  its fault.
-/
import ApkFeatures.Vocabulary.IntentActions
import ApkFeatures.Feature
import ApkFeatures.Log
import ApkFeatures.Xml.Event

namespace ApkFeatures.Manifest

/-- The kinds of components that declare intent filters. -/
inductive Component where
  /-- A screen. -/
  | activity
  /-- A receiver of broadcasts. -/
  | receiver
  /-- A service. -/
  | service
deriving DecidableEq

namespace Component

/-- The name of the element of a component. -/
def element : Component → Xml.Name
  | activity => ⟨none, "activity"⟩
  | receiver => ⟨none, "receiver"⟩
  | service => ⟨none, "service"⟩

/-- The value of a feature that the component declares. -/
def code : Component → UInt8
  | activity => 10
  | receiver => 11
  | service => 12

/-- The component of an element. -/
def ofElement? (name : Xml.Name) : Option Component :=
  [activity, receiver, service].find? fun component => component.element = name

end Component

/-- The name of the attribute that names an action. -/
def nameAttribute : Xml.Name := ⟨some "http://schemas.android.com/apk/res/android", "name"⟩

/-- The name that an element has by its attributes. -/
def namedBy? (attributes : List Xml.Attribute) : Option String :=
  (attributes.find? fun given => given.name = nameAttribute).map Xml.Attribute.value

/-- The component for which an element declares an action, if it does, by the elements around it,
the innermost first. -/
def declaring? (name : Xml.Name) (around : List Xml.Name) : Option Component :=
  match around with
  | filter :: component :: _ :: _ =>
    if name = ⟨none, "action"⟩ ∧ filter = ⟨none, "intent-filter"⟩ then
      Component.ofElement? component
    else none
  | _ => none

/-- What has been found in the beginning of a document. -/
structure Scan where
  /-- The open elements, the innermost first. -/
  opened : List Xml.Name
  /-- The features so far. -/
  features : FeatureVector Vocabulary.intentActions
  /-- The declarations that changed a feature, the last one first. -/
  found : List (String × Component)

namespace Scan

/-- The scan of nothing. -/
def start : Scan := ⟨[], FeatureVector.zero Vocabulary.intentActions, []⟩

/-- Notes a declaration, if it raises the value of its action. -/
def declare (scan : Scan) (action : String) (component : Component) : Scan :=
  match scan.features.get? action with
  | none => scan
  | some current =>
    if current < component.code then
      { scan with
        features := scan.features.set action component.code
        found := (action, component) :: scan.found }
    else scan

/-- Takes one event. -/
def step (scan : Scan) : Xml.Event → Scan
  | .start name attributes =>
    let after :=
      match declaring? name scan.opened, namedBy? attributes with
      | some component, some action => scan.declare action component
      | _, _ => scan
    { after with opened := name :: scan.opened }
  | .finish => { scan with opened := scan.opened.tail }

/-- What is told of the declarations. -/
def messages (scan : Scan) : List Message :=
  scan.found.reverse.map fun (action, component) =>
    { origin := .intents, level := .debug
      text := "found intent action " ++ action ++ " (" ++ toString component.code.toNat ++ ")" }

end Scan

/-- The scan of a sequence of events. -/
def scan (events : List Xml.Event) : Scan := events.foldl Scan.step .start

/-- The intent features of a document, read by any reader of XML. One that is not well-formed has
none, whatever it declares before its fault. -/
def intents (parser : Xml.Parser) (text : List Char) :
    Except String (FeatureVector Vocabulary.intentActions) :=
  match parser text with
  | (events, none) => .ok (scan events).features
  | (_, some complaint) => .error complaint

/-- What is told of the declarations of a document, up to its fault if it has one. -/
def intentMessages (parser : Xml.Parser) (text : List Char) : List Message :=
  (scan (parser text).1).messages

end ApkFeatures.Manifest
