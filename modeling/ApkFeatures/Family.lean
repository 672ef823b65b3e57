/-
**Families of features and the tasks that find them.**

A family has a vocabulary of its own; its tables have an identifier column if their rows name the
application. The static task reads manifests, the dynamic one call graphs.
-/
import ApkFeatures.Feature
import ApkFeatures.Vocabulary.Permissions
import ApkFeatures.Vocabulary.IntentActions
import ApkFeatures.Vocabulary.SensitiveApis

namespace ApkFeatures

/-- The families of features. -/
inductive Family where
  /-- Permissions that a manifest mentions. -/
  | permissions
  /-- Intent actions that components declare. -/
  | intents
  /-- Sensitive methods that are called. -/
  | sensitiveApis
deriving DecidableEq

namespace Family

/-- All families, in the order of their datasets. -/
def all : List Family := [permissions, intents, sensitiveApis]

/-- The name of the family in files. -/
def name : Family → String
  | permissions => "permissions"
  | intents => "intents"
  | sensitiveApis => "sensitive_apis"

/-- The name of the family in messages. -/
def title : Family → String
  | permissions => "permissions"
  | intents => "intents"
  | sensitiveApis => "sensitive APIs"

/-- The folder of the tables of single applications. -/
def folderName (family : Family) : String := family.name ++ "_data"

/-- The file of the merged table. -/
def datasetName (family : Family) : String := family.name ++ "_merged.csv"

/-- The columns of the family. -/
def vocabulary : Family → Vocabulary
  | permissions => .permissions
  | intents => .intentActions
  | sensitiveApis => .sensitiveApis

/-- The column that names the application, if the family has one. -/
def identifierColumn? : Family → Option String
  | permissions => none
  | intents => none
  | sensitiveApis => some "name"

/-- The first line of the tables of the family. -/
def header (family : Family) : String := family.vocabulary.header family.identifierColumn?

/-- The identifier of the row of an application, if the family has one. -/
def identifier? (family : Family) (application : String) : Option Identifier :=
  family.identifierColumn?.map fun column => ⟨column, application⟩

end Family

/-- The tasks of a batch. -/
inductive Task where
  /-- Reads manifests. -/
  | staticAnalysis
  /-- Reads call graphs. -/
  | dynamicAnalysis
deriving DecidableEq

namespace Task

/-- All tasks, in the order of their reports. -/
def all : List Task := [staticAnalysis, dynamicAnalysis]

/-- The name of the task. -/
def name : Task → String
  | staticAnalysis => "static"
  | dynamicAnalysis => "dynamic"

/-- The families that the task finds. -/
def families : Task → List Family
  | staticAnalysis => [.permissions, .intents]
  | dynamicAnalysis => [.sensitiveApis]

end Task

end ApkFeatures
