/-
**Scripts.**

A tool may be a script: a text of commands, one after the other. A command is words and
redirections; a word may refer to the arguments of the script, inside and outside of double
quotes.

* `Script.ofText` — the commands of a script.
-/
import ApkFeatures.Text.Utf8

namespace ApkFeatures

/-- A part of a word. -/
inductive WordPart where
  /-- Bytes as they are. -/
  | literal (bytes : Bytes)
  /-- The argument with a number. -/
  | argument (number : Nat)
  /-- All arguments, each a word of its own. -/
  | allArguments
  /-- The number of the process of the script. -/
  | process
  /-- A variable, which has no value. -/
  | variable
deriving DecidableEq

/-- A word of a command. -/
abbrev Word := List WordPart

/-- What a redirection does with a stream of output. -/
inductive Redirection where
  /-- Writes it to a file. -/
  | write
  /-- Adds it to a file. -/
  | append
  /-- Sends it where another stream goes. -/
  | duplicate
deriving DecidableEq

/-- When a command runs, by how the one before it ended. -/
inductive Link where
  /-- In any case. -/
  | always
  /-- If the one before it was successful. -/
  | onSuccess
  /-- If the one before it was not successful. -/
  | onError
deriving DecidableEq

/-- A command of a script. -/
structure ScriptCommand where
  /-- When it runs. -/
  link : Link
  /-- Its words. -/
  words : List Word
  /-- Its redirections: the stream, what is done with it, and the target. -/
  redirections : List (Nat × Redirection × Word)

/-- A script. -/
abbrev Script := List ScriptCommand

namespace Script

/-! ### Tokens -/

/-- A token of a script. -/
inductive Token where
  /-- A word. -/
  | word (word : Word)
  /-- The beginning of a redirection. -/
  | redirect (stream : Nat) (redirection : Redirection)
  /-- The end of a command. -/
  | link (link : Link)

/-- Inside which quotes a reader stands. -/
inductive Quotes where
  /-- Outside of quotes. -/
  | none
  /-- Inside single quotes. -/
  | single
  /-- Inside double quotes. -/
  | double
deriving DecidableEq

/-- What a reader has begun to read. -/
inductive Begun where
  /-- Nothing. -/
  | nothing
  /-- A backslash. -/
  | escape
  /-- A dollar sign. -/
  | dollar
  /-- The name of a variable. -/
  | variable
  /-- An operator of one character. -/
  | operator (c : Char)
  /-- A comment. -/
  | comment
deriving DecidableEq

/-- A reader of tokens. -/
structure Lexer where
  /-- Inside which quotes it stands. -/
  quotes : Quotes
  /-- What it has begun to read. -/
  begun : Begun
  /-- The word it is in, its last part first, if it is in one. -/
  word? : Option Word
  /-- The tokens so far, the last one first. -/
  tokens : List Token

namespace Lexer

/-- Adds a part to the word. -/
def push (lexer : Lexer) (part : WordPart) : Lexer :=
  { lexer with begun := .nothing, word? := some (part :: lexer.word?.getD []) }

/-- Adds a character to the word. -/
def pushChar (lexer : Lexer) (c : Char) : Lexer := lexer.push (.literal (Text.encode c.toString))

/-- Ends the word. -/
def endWord (lexer : Lexer) : Lexer :=
  match lexer.word? with
  | none => lexer
  | some word => { lexer with word? := none, tokens := .word word.reverse :: lexer.tokens }

/-- Adds a token. -/
def emit (lexer : Lexer) (token : Token) : Lexer :=
  { lexer with begun := .nothing, tokens := token :: lexer.tokens }

/-- The stream of a redirection by the word before it. -/
def stream? (word : Word) : Option Nat :=
  match word with
  | [.literal [digit]] => if 48 ≤ digit ∧ digit ≤ 57 then some (digit.toNat - 48) else none
  | _ => none

/-- Begins a redirection. The word right before it may be its stream. -/
def redirect (lexer : Lexer) (redirection : Redirection) : Lexer :=
  match lexer.word?.bind stream? with
  | some stream => { lexer with word? := none }.emit (.redirect stream redirection)
  | none => lexer.endWord.emit (.redirect 1 redirection)

/-- Ends an operator of one character. -/
def endOperator (lexer : Lexer) (c : Char) : Lexer :=
  if c = '>' then lexer.redirect .write else lexer.endWord.emit (.link .always)

/-- Takes a character of an unquoted or double-quoted text. -/
def plain (lexer : Lexer) (c : Char) : Lexer :=
  if c = '\\' then { lexer with begun := .escape }
  else if c = '$' then { lexer with begun := .dollar }
  else if c = '"' then
    { lexer with
      quotes := if lexer.quotes = .double then .none else .double
      word? := some (lexer.word?.getD []) }
  else if lexer.quotes = .double then lexer.pushChar c
  else if c.toNat = 39 then
    { lexer with quotes := .single, word? := some (lexer.word?.getD []) }
  else if c = ' ' ∨ c = '\t' then lexer.endWord
  else if c = '\n' ∨ c = ';' then lexer.endWord.emit (.link .always)
  else if c = '>' ∨ c = '|' ∨ c = '&' then { lexer with begun := .operator c }
  else if c = '#' ∧ lexer.word? = none then { lexer with begun := .comment }
  else lexer.pushChar c

/-- Takes a character after a dollar sign. -/
def afterDollar (lexer : Lexer) (c : Char) : Lexer :=
  if c = '@' then lexer.push .allArguments
  else if c = '$' then lexer.push .process
  else if c.isDigit then lexer.push (.argument (c.toNat - '0'.toNat))
  else if c.isAlpha ∨ c = '_' then { lexer.push .variable with begun := .variable }
  else (lexer.pushChar '$').plain c

/-- The characters that a backslash escapes inside double quotes. -/
def escapable : List Char := ['"', '\\', '$', Char.ofNat 96]

/-- Takes a character after a backslash. Inside quotes only some characters are escaped. -/
def afterEscape (lexer : Lexer) (c : Char) : Lexer :=
  if c = '\n' then { lexer with begun := .nothing }
  else if lexer.quotes = .double ∧ !escapable.contains c then
    (lexer.pushChar '\\').pushChar c
  else lexer.pushChar c

/-- Takes a character after an operator of one character. -/
def afterOperator (lexer : Lexer) (first c : Char) : Lexer :=
  match first, c with
  | '>', '>' => lexer.redirect .append
  | '>', '&' => lexer.redirect .duplicate
  | '|', '|' => lexer.endWord.emit (.link .onError)
  | '&', '&' => lexer.endWord.emit (.link .onSuccess)
  | _, _ => (lexer.endOperator first).plain c

/-- Takes one character. -/
def step (lexer : Lexer) (c : Char) : Lexer :=
  match lexer.quotes, lexer.begun with
  | .single, _ => if c.toNat = 39 then { lexer with quotes := .none } else lexer.pushChar c
  | _, .nothing => lexer.plain c
  | _, .escape => lexer.afterEscape c
  | _, .dollar => lexer.afterDollar c
  | _, .variable =>
    if c.isAlphanum ∨ c = '_' then lexer else { lexer with begun := .nothing }.plain c
  | _, .operator first => lexer.afterOperator first c
  | _, .comment => if c = '\n' then lexer.emit (.link .always) else lexer

/-- Ends the text. -/
def finish (lexer : Lexer) : List Token :=
  let ended :=
    match lexer.begun with
    | .operator c => lexer.endOperator c
    | .dollar => lexer.pushChar '$'
    | _ => lexer
  ended.endWord.tokens.reverse

end Lexer

/-- The tokens of a text. -/
def tokens (text : List Char) : List Token :=
  (text.foldl Lexer.step ⟨.none, .nothing, none, []⟩).finish

/-! ### Commands -/

/-- The commands before each link, and the one after the last. -/
def commands (command : ScriptCommand) : List Token → Script
  | [] => [command]
  | .link link :: rest => command :: commands ⟨link, [], []⟩ rest
  | .word word :: rest => commands { command with words := command.words ++ [word] } rest
  | .redirect stream redirection :: .word target :: rest =>
    commands { command with
      redirections := command.redirections ++ [(stream, redirection, target)] } rest
  | .redirect _ _ :: rest => commands command rest

/-- The commands of a script, without those that have nothing to do. -/
def ofText (text : List Char) : Script :=
  (commands ⟨.always, [], []⟩ (tokens text)).filter fun command =>
    !command.words.isEmpty || !command.redirections.isEmpty

end Script

end ApkFeatures
