/-
**Quoted texts of a settings file.**

A text stands between double quotes, where a backslash begins an escape, or between single quotes,
where it does not. Three quotes open a text that may go over several lines: a line end right after
them is left out, and a backslash at a line end leaves out the blanks that follow.

* `OpenText.step` — one more character of a text.
-/
import ApkFeatures.Text.Numeral

namespace ApkFeatures.Settings

/-- What is wrong with a settings file. -/
inductive Fault where
  /-- A character has no place where it stands. -/
  | unexpectedCharacter
  /-- The file ends too early. -/
  | unexpectedEnd
  /-- An escape is unknown. -/
  | unknownEscape
  /-- A text over several lines is no name of a setting. -/
  | severalLines
  /-- There is no such setting. -/
  | unknownSetting
  /-- The value is not of the kind of its setting. -/
  | wrongKind
  /-- A setting is given twice. -/
  | repeatedSetting
deriving DecidableEq

/-- The wording of a fault. -/
def Fault.message : Fault → String
  | unexpectedCharacter => "unexpected character"
  | unexpectedEnd => "unexpected end"
  | unknownEscape => "unknown escape"
  | severalLines => "name over several lines"
  | unknownSetting => "unknown setting"
  | wrongKind => "wrong kind of value"
  | repeatedSetting => "repeated setting"

/-- How far a quoted text has come. -/
inductive Phase where
  /-- After its first quote. -/
  | opening
  /-- After its first two quotes. -/
  | openedTwice
  /-- After three opening quotes. -/
  | opened
  /-- Between characters. -/
  | within
  /-- After one closing quote of three. -/
  | closing
  /-- After two closing quotes of three. -/
  | closingTwice
  /-- After a backslash. -/
  | escape
  /-- In the number of a character, before some more digits. -/
  | number (missing : Nat) (digits : List Char)
  /-- In blanks that are left out. -/
  | skipping
deriving DecidableEq

/-- A quoted text whose end has not been read. -/
structure OpenText where
  /-- The quote that opened it. -/
  quote : Char
  /-- It may go over several lines. -/
  severalLines : Bool
  /-- How far it has come. -/
  phase : Phase
  /-- What has been read of it, the last character first. -/
  text : List Char

/-- A quoted text after one more character. -/
inductive TextStep where
  /-- The text goes on. -/
  | more (text : OpenText)
  /-- The character ends the text. -/
  | closed (text : OpenText)
  /-- The text has ended before the character. -/
  | closedBefore (text : OpenText)

namespace OpenText

/-- The text after its first quote. -/
def start (quote : Char) : OpenText := ⟨quote, false, .opening, []⟩

/-- The text in another phase. -/
def goto (text : OpenText) (phase : Phase) : Except Fault TextStep :=
  .ok (.more { text with phase := phase })

/-- The text with one more character. -/
def push (text : OpenText) (c : Char) : Except Fault TextStep :=
  .ok (.more { text with phase := .within, text := c :: text.text })

/-- Escapes are known in the text. -/
def knowsEscapes (text : OpenText) : Bool := text.quote = '"'

/-- The text may hold the character as itself. -/
def holds (text : OpenText) (c : Char) : Bool :=
  0x20 ≤ c.toNat || c = '\n' && text.severalLines || c = '\t' && !text.knowsEscapes

/-- Between characters. -/
def inside (text : OpenText) (c : Char) : Except Fault TextStep :=
  if c = text.quote then
    if text.severalLines then text.goto .closing else .ok (.closed text)
  else if c = '\\' ∧ text.knowsEscapes then text.goto .escape
  else if text.holds c then text.push c
  else .error .unexpectedCharacter

/-- After a backslash. -/
def escaped (text : OpenText) (c : Char) : Except Fault TextStep :=
  match c with
  | '"' => text.push '"'
  | '\\' => text.push '\\'
  | 'b' => text.push (Char.ofNat 8)
  | 'f' => text.push (Char.ofNat 12)
  | 'n' => text.push '\n'
  | 'r' => text.push '\r'
  | 't' => text.push '\t'
  | 'u' => text.goto (.number 4 [])
  | 'U' => text.goto (.number 8 [])
  | '\n' => if text.severalLines then text.goto .skipping else .error .unknownEscape
  | _ => .error .unknownEscape

/-- In the number of a character. -/
def inNumber (text : OpenText) (missing : Nat) (digits : List Char) (c : Char) :
    Except Fault TextStep :=
  if !Text.isHexDigit c then .error .unknownEscape
  else if 1 < missing then text.goto (.number (missing - 1) (c :: digits))
  else
    match Text.scalar? (Text.numeral 16 (c :: digits).reverse) with
    | some shown => text.push shown
    | none => .error .unknownEscape

/-- Takes one character. -/
def step (text : OpenText) (c : Char) : Except Fault TextStep :=
  match text.phase with
  | .opening => if c = text.quote then text.goto .openedTwice else text.inside c
  | .openedTwice =>
    if c = text.quote then .ok (.more { text with phase := .opened, severalLines := true })
    else .ok (.closedBefore text)
  | .opened => if c = '\n' then text.goto .within else text.inside c
  | .within => text.inside c
  | .closing =>
    if c = text.quote then text.goto .closingTwice
    else { text with text := text.quote :: text.text }.inside c
  | .closingTwice =>
    if c = text.quote then .ok (.closed text)
    else { text with text := text.quote :: text.quote :: text.text }.inside c
  | .escape => text.escaped c
  | .number missing digits => text.inNumber missing digits c
  | .skipping =>
    if c = ' ' ∨ c = '\t' ∨ c = '\n' then text.goto .skipping else text.inside c

/-- The text read so far. -/
def value (text : OpenText) : String := String.ofList text.text.reverse

end OpenText

end ApkFeatures.Settings
