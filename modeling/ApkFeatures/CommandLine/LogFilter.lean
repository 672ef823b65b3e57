/-
**Which messages are shown.**

A filter is a list of rules, each with a level and possibly the beginning of the names it is for.
The rule with the longest beginning decides; a message that no rule is for is not shown. A
specification has its rules between commas, and possibly a text after a slash that every message
shown has to hold.

* `LogFilter.ofSpecification` — the filter of a specification, and what is wrong with it.
* `LogFilter.shows` — a message is shown.
-/
import ApkFeatures.Log
import ApkFeatures.Text.Blank
import ApkFeatures.Text.Search

namespace ApkFeatures

/-- A rule of a filter. -/
structure LogRule where
  /-- What the names begin with that the rule is for; all names if it is missing. -/
  scope? : Option String
  /-- The greatest rank that is shown: none at all if it is zero. -/
  rank : Nat
deriving DecidableEq

/-- Which messages are shown. -/
structure LogFilter where
  /-- The rules, the one with the longest beginning last. -/
  rules : List LogRule
  /-- A text that messages have to hold. -/
  needed? : Option String
deriving DecidableEq

namespace LogRule

/-- The length of the beginning of a rule. -/
def length (rule : LogRule) : Nat := (rule.scope?.map String.utf8ByteSize).getD 0

/-- The rule is for a name. -/
def isFor (rule : LogRule) (name : String) : Bool :=
  match rule.scope? with
  | none => true
  | some scope => scope.toList.isPrefixOf name.toList

end LogRule

/-- The rank that shows all messages. -/
def greatestRank : Nat := 5

/-- The rank of the name of a level, in any case. -/
def rankNamed? (name : List Char) : Option Nat :=
  ["off", "error", "warn", "info", "debug", "trace"].findIdx? fun level =>
    level.toList == name.map Char.toLower

namespace LogFilter

/-- A filter with its rules in order. -/
def ofRules (rules : List LogRule) (needed? : Option String) : LogFilter :=
  ⟨(if rules.isEmpty then [⟨none, Level.error.rank⟩] else rules).mergeSort fun a b =>
    decide (a.length ≤ b.length), needed?⟩

/-- The filter that shows the messages of the program, with details or without. -/
def ofVerbosity (verbose : Bool) : LogFilter :=
  ofRules [⟨some "droid_features", (if verbose then Level.debug else Level.info).rank⟩] none

/-- A rule between commas, or the part of it that is wrong. -/
def readRule (text : List Char) : Except (List Char) LogRule :=
  match text.splitOn '=' with
  | [single] =>
    match rankNamed? single with
    | some rank => .ok ⟨none, rank⟩
    | none => .ok ⟨some (String.ofList single), greatestRank⟩
  | [scope, level] =>
    let trimmed := Text.trim level
    if trimmed.isEmpty then .ok ⟨some (String.ofList scope), greatestRank⟩
    else
      match rankNamed? trimmed with
      | some rank => .ok ⟨some (String.ofList scope), rank⟩
      | none => .error trimmed
  | _ => .error text

/-- What is told of a part of a specification that is wrong. -/
def warning (part : List Char) : String :=
  "warning: invalid logging spec '" ++ String.ofList part ++ "', ignoring it"

/-- Reads rules between commas. -/
def readRules (texts : List (List Char)) : List LogRule × List String :=
  texts.foldr (fun text (rules, warnings) =>
    if text.isEmpty then (rules, warnings)
    else
      match readRule text with
      | .ok rule => (rule :: rules, warnings)
      | .error part => (rules, warning part :: warnings)) ([], [])

/-- The filter of a specification, and what is told of the parts that are wrong. -/
def ofSpecification (specification : String) : LogFilter × List String :=
  match specification.toList.splitOn '/' with
  | [rules] =>
    let (read, warnings) := readRules (rules.splitOn ',')
    (ofRules read none, warnings)
  | [rules, needed] =>
    let (read, warnings) := readRules (rules.splitOn ',')
    (ofRules read (some (String.ofList needed)), warnings)
  | _ => (ofRules [] none, [warning specification.toList ++ " (too many '/'s)"])

/-- A message is shown. -/
def shows (filter : LogFilter) (message : Message) : Bool :=
  let allowed :=
    match filter.rules.reverse.find? fun rule => rule.isFor message.origin.name with
    | none => false
    | some rule => message.level.rank ≤ rule.rank
  let held :=
    match filter.needed? with
    | none => true
    | some needed => Text.occursIn needed.toList message.text.toList
  allowed && held

end LogFilter

/-- A message as it is printed. -/
def Message.line (message : Message) : String :=
  match message.level with
  | .error => "Error: " ++ message.text
  | .warn => "Warning: " ++ message.text
  | .info => message.text
  | .debug => "Debug: " ++ message.text

end ApkFeatures
