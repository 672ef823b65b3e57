/-
**JSON on many lines.**

The serializer of this library gives every item and every member a line of its own, two blanks
deeper than what it stands in, and has escapes for quotes, backslashes and control characters. It
refuses a path that is no text.

* `Serializer.pretty` — this serializer.
-/
import ApkFeatures.Report.Serializer

namespace ApkFeatures

namespace Pretty

open JsonValue (Visit)

/-- A character in a JSON text. -/
def escaped (c : Char) : List Char :=
  match c with
  | '"' => ['\\', '"']
  | '\\' => ['\\', '\\']
  | '\n' => ['\\', 'n']
  | '\r' => ['\\', 'r']
  | '\t' => ['\\', 't']
  | c =>
    if c.toNat = 8 then ['\\', 'b']
    else if c.toNat = 12 then ['\\', 'f']
    else if c.toNat < 0x20 then
      ['\\', 'u', '0', '0', Nat.digitChar (c.toNat / 16), Nat.digitChar (c.toNat % 16)]
    else [c]

/-- A text between quotes. -/
def quote (text : String) : String :=
  "\"" ++ String.ofList (text.toList.flatMap escaped) ++ "\""

/-- A new line at a level. -/
def newLine (level : Nat) : String := "\n" ++ String.ofList (List.replicate (2 * level) ' ')

/-- The lists and objects that have begun and not ended, the innermost first: whether something
stands in them already. -/
abbrev Opened := List Bool

/-- Before something in the innermost list or object: a comma after something else, and a line. -/
def separator (opened : Opened) : String :=
  (if opened.headD false then "," else "") ++ newLine opened.length

/-- Before the end of the innermost list or object: a line, unless it is empty. -/
def ending (opened : Opened) : String :=
  if opened.headD false then newLine (opened.length - 1) else ""

/-- What is written for a visit, and what is open after it. -/
def visit (opened : Opened) : Visit → String × Except String Opened
  | .null => ("null", .ok opened)
  | .number n => (toString n, .ok opened)
  | .text s => (quote s, .ok opened)
  | .path p =>
    match Text.decode? p.bytes with
    | some s => (quote s, .ok opened)
    | none => ("", .error "path contains invalid UTF-8 characters")
  | .arrayStart => ("[", .ok (false :: opened))
  | .item => (separator opened, .ok (true :: opened.tail))
  | .arrayEnd => (ending opened ++ "]", .ok opened.tail)
  | .objectStart => ("\x7b", .ok (false :: opened))
  | .member key => (separator opened ++ quote key ++ ": ", .ok (true :: opened.tail))
  | .objectEnd => (ending opened ++ "\x7d", .ok opened.tail)

end Pretty

/-- The serializer of this library. -/
def Serializer.pretty : Serializer := ⟨Pretty.Opened, [], Pretty.visit⟩

end ApkFeatures
