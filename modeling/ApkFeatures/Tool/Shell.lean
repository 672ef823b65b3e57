/-
**Running scripts.**

A shell runs the commands of a script on the files of a tree. What a script writes is lost, unless
it goes to a file or is a complaint. A script that cannot write to a file goes on, except in a
command of the shell itself that has nothing else to do.

* `Shell.runAll` — runs the commands of a script.
* `Shell.toolbox` — the tools that are scripts in a folder, or that stand at a path.
-/
import ApkFeatures.Text.Lines
import ApkFeatures.Tool.Command
import ApkFeatures.Tool.Script

namespace ApkFeatures

/-- Where output goes. -/
inductive Sink where
  /-- Nowhere. -/
  | nowhere
  /-- To the complaint of the script. -/
  | complaint
  /-- To the end of a file. -/
  | file (path : FilePath)
deriving DecidableEq

/-- A script that runs. -/
structure Shell where
  /-- The files. -/
  tree : FileTree
  /-- The arguments of the script. -/
  arguments : List Bytes
  /-- The complaint so far. -/
  written : Bytes
  /-- Where output goes. -/
  output : Sink
  /-- Where complaints go. -/
  complaints : Sink
  /-- The status of the last command. -/
  status : Nat
  /-- The end of the script, if it has ended: whether it was successful. -/
  ended? : Option Bool

namespace Shell

/-! ### Words -/

/-- The number of the process of a script. -/
def processNumber : Bytes := Text.encode "1"

/-- The words that a word stands for. -/
def expand (arguments : List Bytes) : Word → List Bytes
  | [] => [[]]
  | part :: rest =>
    match part, expand arguments rest with
    | .allArguments, [] => arguments
    | .allArguments, first :: others =>
      match arguments.getLast? with
      | none => if rest.isEmpty then [] else first :: others
      | some last => arguments.dropLast ++ (last ++ first) :: others
    | .literal bytes, fields => glue bytes fields
    | .argument number, fields => glue (arguments[number - 1]?.getD []) fields
    | .process, fields => glue processNumber fields
    | .variable, fields => fields
where
  /-- Puts bytes before the first word. -/
  glue (bytes : Bytes) : List Bytes → List Bytes
    | [] => [bytes]
    | first :: others => (bytes ++ first) :: others

/-! ### Output -/

/-- Sends bytes to a sink. -/
def send (shell : Shell) (sink : Sink) (bytes : Bytes) : Shell :=
  match sink with
  | .nowhere => shell
  | .complaint => { shell with written := shell.written ++ bytes }
  | .file path =>
    match shell.tree.read path >>= fun content => shell.tree.write path (content ++ bytes) with
    | .ok tree => { shell with tree := tree }
    | .error _ => shell

/-- Writes a complaint. -/
def complain (shell : Shell) (text : String) : Shell :=
  shell.send shell.complaints (Text.encode (text ++ "\n"))

/-- The path where output goes to be lost. -/
def lostOutput : FilePath := .ofString "/dev/null"

/-- The shell with a sink for a stream. -/
def redirect (shell : Shell) (stream : Nat) (sink : Sink) : Shell :=
  if stream = 2 then { shell with complaints := sink } else { shell with output := sink }

/-- Opens the target of a redirection; false if that is not possible. -/
def openTarget (shell : Shell) (stream : Nat) (redirection : Redirection) (target : Bytes) :
    Shell × Bool :=
  let path : FilePath := ⟨target⟩
  let opened (content : Bytes) : Shell × Bool :=
    match shell.tree.write path content with
    | .ok tree => ({ shell with tree := tree }.redirect stream (.file path), true)
    | .error _ => (shell.complain ("cannot create " ++ path.shown), false)
  match redirection with
  | .duplicate =>
    (shell.redirect stream (if target = Text.encode "2" then shell.complaints else shell.output),
      true)
  | .write => if path = lostOutput then (shell.redirect stream .nowhere, true) else opened []
  | .append =>
    if path = lostOutput then (shell.redirect stream .nowhere, true)
    else opened (shell.tree.read path).toOption.toList.flatten

/-- Opens the targets of redirections in their order, up to the first one that is not possible. -/
def openTargets (shell : Shell) : List (Nat × Redirection × Word) → Shell × Bool
  | [] => (shell, true)
  | (stream, redirection, target) :: rest =>
    match shell.openTarget stream redirection (expand shell.arguments target).flatten with
    | (after, true) => after.openTargets rest
    | failed => failed

/-! ### Formats -/

/-- The value of a digit of base eight. -/
def octal? (byte : UInt8) : Option Nat :=
  if 48 ≤ byte ∧ byte ≤ 55 then some (byte.toNat - 48) else none

/-- The byte of a short escape. -/
def escapeByte? (byte : UInt8) : Option UInt8 :=
  match Char.ofNat byte.toNat with
  | 'a' => some 7
  | 'b' => some 8
  | 'f' => some 12
  | 'n' => some 10
  | 'r' => some 13
  | 't' => some 9
  | 'v' => some 11
  | '\\' => some 92
  | _ => none

/-- A part of a format. -/
inductive FormatPart where
  /-- A byte as it is. -/
  | literal (byte : UInt8)
  /-- The next argument. -/
  | argument

/-- The parts of a format: escapes give bytes, and a percent sign with a letter an argument. -/
def formatParts : Bytes → List FormatPart
  | 92 :: byte :: rest =>
    match octal? byte with
    | some high =>
      match rest with
      | middle :: low :: others =>
        match octal? middle, octal? low with
        | some m, some l =>
          .literal (UInt8.ofNat (high * 64 + m * 8 + l)) :: formatParts others
        | some m, none => .literal (UInt8.ofNat (high * 8 + m)) :: formatParts (low :: others)
        | none, _ => .literal (UInt8.ofNat high) :: formatParts (middle :: low :: others)
      | others => .literal (UInt8.ofNat high) :: formatParts others
    | none =>
      match escapeByte? byte with
      | some escaped => .literal escaped :: formatParts rest
      | none => .literal 92 :: .literal byte :: formatParts rest
  | 37 :: 37 :: rest => .literal 37 :: formatParts rest
  | 37 :: _ :: rest => .argument :: formatParts rest
  | byte :: rest => .literal byte :: formatParts rest
  | [] => []

/-- Fills a format with arguments once; the arguments that are left. -/
def fill : List FormatPart → List Bytes → Bytes × List Bytes
  | [], arguments => ([], arguments)
  | .literal byte :: parts, arguments =>
    let (text, left) := fill parts arguments
    (byte :: text, left)
  | .argument :: parts, arguments =>
    let (text, left) := fill parts arguments.tail
    (arguments.headD [] ++ text, left)

/-- Fills a format with arguments, again and again as long as there are arguments. -/
def fillAll (parts : List FormatPart) : Nat → List Bytes → Bytes
  | 0, _ => []
  | rounds + 1, arguments =>
    let (text, left) := fill parts arguments
    if left.isEmpty || left.length = arguments.length then text
    else text ++ fillAll parts rounds left

/-- A format with its arguments. -/
def formatted (format : Bytes) (arguments : List Bytes) : Bytes :=
  fillAll (formatParts format) (arguments.length + 1) arguments

/-! ### Commands -/

/-- The programs of the machine that scripts and runs can call by their paths. -/
inductive Program where
  /-- Makes folders. -/
  | makeFolders
  /-- Does nothing, with success. -/
  | nothing
  /-- Does nothing, without success. -/
  | refusal
deriving DecidableEq

/-- The program at a path. -/
def Program.ofPath? (path : Bytes) : Option Program :=
  ([("/bin/mkdir", makeFolders), ("/usr/bin/mkdir", makeFolders), ("/bin/true", nothing),
    ("/usr/bin/true", nothing), ("/bin/false", refusal), ("/usr/bin/false", refusal)].find?
      fun entry => Text.encode entry.1 = path).map Prod.snd

/-- Ends a command with a status. -/
def withStatus (shell : Shell) (status : Nat) : Shell := { shell with status := status }

/-- Runs a program. -/
def runProgram (shell : Shell) (program : Program) (arguments : List Bytes) : Shell :=
  match program with
  | .nothing => shell.withStatus 0
  | .refusal => shell.withStatus 1
  | .makeFolders =>
    (arguments.filter fun word => word.head? ≠ some 45).foldl (fun shell word =>
      match shell.tree.createFolders ⟨word⟩ with
      | (.ok (), tree) => { shell with tree := tree }
      | (.error fault, tree) =>
        ({ shell with tree := tree }.complain
          ("mkdir: cannot create directory " ++ Text.shown word ++ ": " ++
            fault.message)).withStatus 1) (shell.withStatus 0)

/-- The number that a word stands for. -/
def number (word : Bytes) : Nat :=
  word.foldl (fun value digit => value * 10 + (digit.toNat - 48)) 0

/-- Runs a command whose output has been redirected. -/
def runWords (shell : Shell) (name : Bytes) (arguments : List Bytes) : Shell :=
  match Text.decode? name with
  | some ":" | some "true" => shell.withStatus 0
  | some "false" => shell.withStatus 1
  | some "printf" =>
    match arguments with
    | [] => shell.withStatus 2
    | format :: values => (shell.send shell.output (formatted format values)).withStatus 0
  | some "echo" =>
    let text := ([32] : Bytes).intercalate arguments
    (shell.send shell.output (formatted text [] ++ [10])).withStatus 0
  | some "exit" =>
    let status := match arguments with | [] => shell.status | word :: _ => number word % 256
    { shell with status := status, ended? := some (status = 0) }
  | some "kill" =>
    if arguments.getLast? = some processNumber then { shell with ended? := some false }
    else shell.withStatus 1
  | _ =>
    match Program.ofPath? name with
    | some program => shell.runProgram program arguments
    | none => (shell.complain (Text.shown name ++ ": not found")).withStatus 127

/-- The command belongs to the shell and has a redirection as its only purpose. -/
def isOwn (name : Bytes) : Bool := [":", "exec", "exit"].any fun own => Text.encode own = name

/-- Runs a command. -/
def runCommand (shell : Shell) (command : ScriptCommand) : Shell :=
  let words := command.words.flatMap (expand shell.arguments)
  let own := match words with | [] => false | name :: _ => isOwn name
  match shell.openTargets command.redirections with
  | (failed, false) =>
    { failed with
      output := shell.output
      complaints := shell.complaints
      status := 2
      ended? := if own then some false else none }
  | (ready, true) =>
    match words with
    | [] => { ready with output := shell.output, complaints := shell.complaints, status := 0 }
    | name :: arguments =>
      if name = Text.encode "exec" ∧ arguments = [] then ready.withStatus 0
      else
        { ready.runWords name arguments with
          output := shell.output
          complaints := shell.complaints }

/-- The command runs after the ones before it. -/
def isDue (shell : Shell) (link : Link) : Bool :=
  match link with
  | .always => true
  | .onSuccess => shell.status = 0
  | .onError => shell.status ≠ 0

/-- Runs commands in their order, up to the end of the script. -/
def runAll (shell : Shell) : Script → Shell
  | [] => shell
  | command :: rest =>
    if shell.ended?.isSome then shell
    else if shell.isDue command.link then (shell.runCommand command).runAll rest
    else shell.runAll rest

/-- A script before its first command. -/
def start (tree : FileTree) (arguments : List Bytes) : Shell :=
  ⟨tree, arguments, [], .nowhere, .complaint, 0, none⟩

/-- How a shell ends. -/
def ending (shell : Shell) : Ending := .ended (shell.ended?.getD (shell.status = 0)) shell.written

/-! ### Tools -/

/-- The program that reads scripts, as the first line of a script names it. -/
def interpreterLine : List Char := "#!/bin/sh".toList

/-- The script in a file, if the file can be called as one. -/
def script? (tree : FileTree) (path : FilePath) : Option Script :=
  match tree.find? path with
  | .ok (_, .file content true) =>
    (Text.decode? content).bind fun text =>
      match Text.lines text.toList with
      | first :: _ =>
        if Text.trim first = interpreterLine then some (Script.ofText text.toList) else none
      | [] => none
  | _ => none

/-- The path of a program: programs without a slash are looked for in a folder. -/
def programPath (folder : FilePath) (program : Bytes) : FilePath :=
  if program.contains FilePath.slash then ⟨program⟩ else folder.join ⟨program⟩

/-- The tools that are scripts, in the folder where programs are looked for or at their paths. -/
def toolbox (folder : FilePath) : Toolbox := fun command tree =>
  if command.program.isEmpty then (.notStarted, tree)
  else
    match script? tree (programPath folder command.program) with
    | some script =>
      let after := (start tree command.arguments).runAll script
      (after.ending, after.tree)
    | none =>
      match Program.ofPath? command.program with
      | some program =>
        let after := (start tree command.arguments).runProgram program command.arguments
        (after.ending, after.tree)
      | none => (.notStarted, tree)

end Shell

end ApkFeatures
