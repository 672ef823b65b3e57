/-
**Readers and writers of formats.**

A batch reads XML and writes JSON, and leaves both to others: to any reader of XML and any
serializer of JSON. This library has one of each for a program to run with.

* `Formats` — the two that a batch works with.
* `Formats.own` — those of this library.
-/
import ApkFeatures.Report.Pretty
import ApkFeatures.Xml.Reader

namespace ApkFeatures

/-- What a batch reads manifests and writes reports with. -/
structure Formats where
  /-- The reader of XML. -/
  parser : Xml.Parser
  /-- The serializer of JSON. -/
  serializer : Serializer

/-- The reader and the serializer of this library. -/
def Formats.own : Formats := ⟨Xml.parse, .pretty⟩

end ApkFeatures
