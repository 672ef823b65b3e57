/-
**Arguments.**

The program takes one argument, the folder of the applications. An argument that begins with a
dash is a flag, unless it is a single dash or stands after two dashes alone. The flags ask for
help or for the version, and the first argument that asks for something or is not expected
decides.

* `Request.ofArguments` — what the arguments ask for.
* `helpText`, `Refusal.message` — what is printed.
-/
import ApkFeatures.CommandLine.Similarity

namespace ApkFeatures.CommandLine

/-- The flags of the program. -/
inductive Flag where
  /-- Asks how the program is used. -/
  | help
  /-- Asks for the version. -/
  | version
deriving DecidableEq

namespace Flag

/-- All flags. -/
def all : List Flag := [help, version]

/-- The long name of a flag. -/
def longName : Flag → String
  | help => "help"
  | version => "version"

/-- The short name of a flag. -/
def shortName : Flag → Char
  | help => 'h'
  | version => 'V'

end Flag

/-- Why arguments are refused. -/
inductive Refusal where
  /-- There is no folder. -/
  | nothingGiven
  /-- An argument is not expected; a flag may have been meant. -/
  | unexpected (argument : String) (meant? : Option Flag)
deriving DecidableEq

/-- What the arguments ask for. -/
inductive Request where
  /-- One of the flags. -/
  | flag (flag : Flag)
  /-- The analysis of a folder. -/
  | folder (path : String)
deriving DecidableEq

/-! ### Reading arguments -/

/-- What a long flag asks for. What follows an equals sign is not looked at. -/
def readLong (argument : List Char) : Except Refusal Flag :=
  let name := (argument.dropWhile (· = '-')).takeWhile (· ≠ '=')
  match Flag.all.find? fun flag => flag.longName.toList == name with
  | some flag => .ok flag
  | none =>
    .error (.unexpected ("--" ++ String.ofList name)
      (Flag.all.find? fun flag => isSimilar name flag.longName.toList))

/-- What short flags ask for: the first one decides. -/
def readShort (argument : List Char) : Except Refusal Flag :=
  match argument.dropWhile (· = '-') with
  | [] => .error .nothingGiven
  | c :: _ =>
    match Flag.all.find? fun flag => flag.shortName = c with
    | some flag => .ok flag
    | none => .error (.unexpected ("-" ++ c.toString) none)

/-- The argument is a flag, or several ones. -/
def isFlag (argument : List Char) : Bool :=
  argument.head? = some '-' && 1 < argument.length

/-- The argument is a long flag. -/
def isLong (argument : List Char) : Bool := ['-', '-'].isPrefixOf argument

/-- Reads the arguments after a possible folder; `flags` says that flags are known as such. -/
def readFrom (folder? : Option String) (flags : Bool) : List String → Except Refusal Request
  | [] =>
    match folder? with
    | some folder => .ok (.folder folder)
    | none => .error .nothingGiven
  | argument :: rest =>
    if flags && argument = "--" then readFrom folder? false rest
    else if flags && isFlag argument.toList then
      (if isLong argument.toList then readLong argument.toList else readShort argument.toList).map
        .flag
    else
      match folder? with
      | none => readFrom (some argument) flags rest
      | some _ => .error (.unexpected argument none)

/-- What the arguments ask for. -/
def Request.ofArguments (arguments : List String) : Except Refusal Request :=
  readFrom none true arguments

/-! ### Texts -/

/-- The name of the program and its version. -/
def versionText : String := "droid-features 0.1.0"

/-- How the program is called. -/
def usage : String := "droid-features <DIRECTORY>"

/-- How the program is used. -/
def helpText : String :=
  "\n".intercalate [
    versionText,
    "Gautam Kakadiya, Aadit Patel",
    "Extracts permission, intent and sensitive API features from a directory of Android " ++
      "applications.",
    "",
    "USAGE:",
    "    " ++ usage,
    "",
    "FLAGS:",
    "    -h, --help       Prints help information",
    "    -V, --version    Prints version information",
    "",
    "ARGS:",
    "    <DIRECTORY>    Directory containing the .apk files to analyze"]

/-- What is printed for a flag. -/
def Flag.text : Flag → String
  | help => helpText
  | version => versionText

/-- What is printed when arguments are refused. -/
def Refusal.message : Refusal → String
  | nothingGiven => helpText
  | unexpected argument meant? =>
    let (hint, call) :=
      match meant? with
      | none => ("", usage)
      | some flag =>
        ("\tDid you mean --" ++ flag.longName ++ "?\n", usage ++ " --" ++ flag.longName)
    "error: Found argument '" ++ argument ++
      "' which wasn't expected, or isn't valid in this context\n" ++ hint ++
      "\nUSAGE:\n    " ++ call ++ "\n\nFor more information try --help"

end ApkFeatures.CommandLine
