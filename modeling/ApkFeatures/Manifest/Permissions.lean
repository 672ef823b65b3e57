/-
**Permissions that a manifest mentions.**

A manifest is searched as plain text, so one that is no XML document still has its permissions: a
permission is present if its full name occurs anywhere in the text.

* `Manifest.permissions` — the features of a text.
-/
import ApkFeatures.Text.Search
import ApkFeatures.Vocabulary.Permissions
import ApkFeatures.Feature
import ApkFeatures.Log

namespace ApkFeatures.Manifest

/-- What the full name of every permission of the platform begins with. -/
def permissionStart : List Char := "android.permission.".toList

/-- The full name of a permission occurs in the text. -/
def mentions (text : List Char) (permission : String) : Bool :=
  Text.occursIn (permissionStart ++ permission.toList) text

/-- The permissions that a text mentions, in column order. A text without the common beginning of
their names has none. -/
def mentioned (text : List Char) : List String :=
  if Text.occursIn permissionStart text then Vocabulary.permissions.keys.filter (mentions text)
  else []

/-- The permission features of a text. -/
def permissions (text : List Char) : FeatureVector Vocabulary.permissions :=
  FeatureVector.ofNames Vocabulary.permissions (mentioned text)

/-- What is told of the permissions of a text. -/
def permissionMessages (text : List Char) : List Message :=
  (mentioned text).map fun permission =>
    { origin := .permissions, level := .debug, text := "found permission " ++ permission }

end ApkFeatures.Manifest
