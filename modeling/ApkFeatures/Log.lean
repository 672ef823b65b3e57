/-
**Messages.**

What a run tells on its way, each message with its weight and the task that tells it.
-/
import ApkFeatures.Family

namespace ApkFeatures

/-- The weight of a message, the heaviest first. -/
inductive Level where
  /-- Something could not be done at all. -/
  | error
  /-- Something was left out. -/
  | warn
  /-- What the run does. -/
  | info
  /-- Details. -/
  | debug
deriving DecidableEq

/-- The rank of a level, the heaviest lowest. -/
def Level.rank : Level → Nat
  | error => 1
  | warn => 2
  | info => 3
  | debug => 4

/-- The part of the program that a message comes from. -/
inductive Origin where
  /-- The batch as a whole. -/
  | batch
  /-- The list of applications. -/
  | applications
  /-- The artifacts and their tools. -/
  | artifacts
  /-- The analysis of manifests. -/
  | manifests
  /-- The permissions of a manifest. -/
  | permissions
  /-- The intents of a manifest. -/
  | intents
  /-- The analysis of call graphs. -/
  | callGraphs
  /-- The merged tables. -/
  | datasets
  /-- The report as a file. -/
  | reportFile
  /-- The summary of the report. -/
  | summary
deriving DecidableEq

/-- The name by which messages of an origin are chosen. -/
def Origin.name : Origin → String
  | batch => "droid_features"
  | applications => "droid_features::application"
  | artifacts => "droid_features::decompilation"
  | manifests => "droid_features::static_analysis"
  | permissions => "droid_features::static_analysis::permissions"
  | intents => "droid_features::static_analysis::intents"
  | callGraphs => "droid_features::dynamic_analysis"
  | datasets => "droid_features::results::dataset"
  | reportFile => "droid_features::results::report::json"
  | summary => "droid_features::results::report::summary"

/-- A message with its level. -/
structure Message where
  /-- Where it comes from. -/
  origin : Origin
  /-- How much it matters. -/
  level : Level
  /-- What it says. -/
  text : String
  /-- The task that tells it, if it is one of the two. -/
  task? : Option Task := none
deriving DecidableEq

end ApkFeatures
