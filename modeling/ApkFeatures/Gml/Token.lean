/-
**Tokens of call graph files.**

A token is a key, a number, a text or a bracket. Between tokens stand white space and comments,
which run from `#` to the end of their line. `next?` skips such a gap and reads one token, keeping
count of the lines it has passed.

* `skipGap_length_le`, `Lexeme.read_length_lt` — reading goes forward: a gap may be empty, a token
  takes at least one character.
-/
import ApkFeatures.Text.Blank
import ApkFeatures.Number.Shortest
import ApkFeatures.Gml.Basic
import ApkFeatures.Gml.Reference

namespace ApkFeatures.Gml

open ApkFeatures.Number

/-- A token. -/
inductive Token where
  /-- A name of ASCII letters, digits and underscores. -/
  | key (name : String)
  /-- An integer. -/
  | int (value : Int64)
  /-- A real number. -/
  | real (value : Binary64)
  /-- A quoted text, its character references resolved. -/
  | text (value : String)
  /-- The bracket that opens a list. -/
  | opening
  /-- The bracket that closes a list. -/
  | closing
deriving DecidableEq

/-- How a message names a token. -/
def Token.description : Token → String
  | key name => s!"key `{name}`"
  | int value => s!"integer `{value.toInt}`"
  | real value => s!"real `{value.text}`"
  | text _ => "a string"
  | opening => "`[`"
  | closing => "`]`"

/-- What can be wrong in a file. -/
inductive Reason where
  /-- A list is nested below the depth limit. -/
  | tooDeep
  /-- The file ends inside a list. -/
  | unclosedList
  /-- Another token stands where a key belongs. -/
  | expectedKey (found : Token)
  /-- A token that is no value follows a key. -/
  | expectedValue (key : String) (found : Token)
  /-- The file ends after a key. -/
  | missingValue (key : String)
  /-- The file ends inside a quoted text. -/
  | unterminatedText
  /-- A number with a point or an exponent is malformed. -/
  | invalidReal (text : String)
  /-- A number is malformed, or does not fit in 64 bits. -/
  | invalidInteger (text : String)
  /-- A character begins no token. -/
  | unexpectedCharacter (c : Char)
deriving DecidableEq

/-- The wording of a reason. -/
def Reason.message : Reason → String
  | tooDeep => "lists nested too deeply"
  | unclosedList => "unclosed list"
  | expectedKey found => s!"expected a key, found {found.description}"
  | expectedValue key found => s!"expected a value for `{key}`, found {found.description}"
  | missingValue key => s!"missing value for `{key}`"
  | unterminatedText => "unterminated string"
  | invalidReal text => s!"invalid real `{text}`"
  | invalidInteger text => s!"invalid integer `{text}`"
  | unexpectedCharacter c => s!"unexpected character `{c}`"

/-- A fault of a file, with its line. -/
structure Fault where
  /-- The line, counted from one. -/
  line : Nat
  /-- What is wrong there. -/
  reason : Reason
deriving DecidableEq

/-- The text of a fault. -/
def Fault.message (fault : Fault) : String :=
  s!"invalid GML at line {fault.line}: {fault.reason.message}"

/-! ### Gaps -/

/-- Skips white space and comments. The result is the line reached and what follows the gap. -/
def skipGap (inComment : Bool) (line : Nat) : List Char → Nat × List Char
  | [] => (line, [])
  | c :: rest =>
    if c = '\n' then skipGap false (line + 1) rest
    else if inComment then skipGap true line rest
    else if c = '#' then skipGap true line rest
    else if Text.isBlank c then skipGap false line rest
    else (line, c :: rest)

/-- A gap is a part of what it was skipped from. -/
theorem skipGap_length_le (inComment : Bool) (line : Nat) (source : List Char) :
    (skipGap inComment line source).2.length ≤ source.length := by
  induction source generalizing inComment line with
  | nil => simp [skipGap]
  | cons c rest ih =>
    unfold skipGap
    split
    · exact Nat.le_succ_of_le (ih _ _)
    · split
      · exact Nat.le_succ_of_le (ih _ _)
      · split
        · exact Nat.le_succ_of_le (ih _ _)
        · split
          · exact Nat.le_succ_of_le (ih _ _)
          · exact Nat.le_refl _

/-! ### Tokens -/

/-- A number begins with such a character. -/
def beginsNumber (c : Char) : Bool := c.isDigit || c = '-' || c = '+' || c = '.'

/-- A number goes on through such characters. -/
def continuesNumber (c : Char) : Bool := beginsNumber c || c = 'e' || c = 'E'

/-- A key begins with such a character. -/
def beginsKey (c : Char) : Bool := c.isAlpha || c = '_'

/-- A key goes on through such characters. -/
def continuesKey (c : Char) : Bool := c.isAlphanum || c = '_'

/-- A number has a fraction or an exponent. -/
def looksReal (text : List Char) : Bool := text.any fun c => c = '.' || c = 'e' || c = 'E'

/-- The token of the characters of a number. -/
def Token.ofNumber (text : List Char) : Except Reason Token :=
  if looksReal text then
    match Binary64.read? text with
    | some value => .ok (.real value)
    | none => .error (.invalidReal (String.ofList text))
  else
    match readInt64? text with
    | some value => .ok (.int value)
    | none => .error (.invalidInteger (String.ofList text))

/-- A token, with the line on which it ends and the characters after it. -/
structure Lexeme where
  /-- The token. -/
  token : Token
  /-- The line of its last character. -/
  line : Nat
  /-- What follows the token. -/
  rest : List Char

/-- Reads the token that begins with the character `c`. -/
def Lexeme.read (line : Nat) (c : Char) (rest : List Char) : Except Fault Lexeme :=
  if c = '[' then .ok ⟨.opening, line, rest⟩
  else if c = ']' then .ok ⟨.closing, line, rest⟩
  else if c = '"' then
    let text := rest.takeWhile (· ≠ '"')
    match rest.dropWhile (· ≠ '"') with
    | [] => .error ⟨line, .unterminatedText⟩
    | _ :: after => .ok ⟨.text (String.ofList (unescape text)), line + text.count '\n', after⟩
  else if beginsNumber c then
    match Token.ofNumber (c :: rest.takeWhile continuesNumber) with
    | .ok token => .ok ⟨token, line, rest.dropWhile continuesNumber⟩
    | .error reason => .error ⟨line, reason⟩
  else if beginsKey c then
    .ok ⟨.key (String.ofList (c :: rest.takeWhile continuesKey)), line,
      rest.dropWhile continuesKey⟩
  else .error ⟨line, .unexpectedCharacter c⟩

/-- What is left after skipping leading characters is not longer. -/
theorem length_dropWhile_le (p : Char → Bool) (text : List Char) :
    (text.dropWhile p).length ≤ text.length :=
  (List.dropWhile_sublist p).length_le

/-- A token takes at least one character. -/
theorem Lexeme.read_length_lt {line : Nat} {c : Char} {rest : List Char} {lexeme : Lexeme}
    (read : Lexeme.read line c rest = .ok lexeme) : lexeme.rest.length < (c :: rest).length := by
  have number := length_dropWhile_le continuesNumber rest
  have key := length_dropWhile_le continuesKey rest
  have quoted := length_dropWhile_le (· ≠ '"') rest
  unfold Lexeme.read at read
  rw [List.length_cons]
  split at read
  · cases read; exact Nat.lt_succ_self _
  split at read
  · cases read; exact Nat.lt_succ_self _
  split at read
  · dsimp only at read
    split at read
    · cases read
    · rename_i after dropped
      cases read
      rw [dropped, List.length_cons] at quoted
      dsimp only
      omega
  split at read
  · split at read
    · cases read; exact Nat.lt_succ_of_le number
    · cases read
  split at read
  · cases read; exact Nat.lt_succ_of_le key
  · cases read

/-- The next token after a gap, or none at the end of the file. The line is the one reached. -/
def next? (line : Nat) (source : List Char) : Except Fault (Nat × Option Lexeme) :=
  match skipGap false line source with
  | (line, []) => .ok (line, none)
  | (line, c :: rest) => (Lexeme.read line c rest).map fun lexeme => (lexeme.line, some lexeme)

/-- What follows a token is shorter than what it was read from. -/
theorem next?_length_lt {line reached : Nat} {source : List Char} {lexeme : Lexeme}
    (found : next? line source = .ok (reached, some lexeme)) :
    lexeme.rest.length < source.length := by
  have gap := skipGap_length_le false line source
  unfold next? at found
  split at found
  · cases found
  · rename_i after c rest skipped
    rw [skipped] at gap
    cases result : Lexeme.read after c rest with
    | error fault => rw [result] at found; cases found
    | ok read =>
      rw [result] at found
      cases found
      exact Nat.lt_of_lt_of_le (Lexeme.read_length_lt result) gap

end ApkFeatures.Gml
