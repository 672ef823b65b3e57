/-
**Quoted texts.**

Two ways to show a text between double quotes, so that it can be told where it begins and ends and
what it consists of. `quoted` shows a text that someone reads; `quotedBytes` shows bytes that are
handed to a program, and escapes more of them.
-/
import ApkFeatures.Text.Unprintable
import ApkFeatures.Text.Utf8

namespace ApkFeatures.Text

/-- A number in base sixteen. -/
def hexadecimal (n : Nat) : String := String.ofList (Nat.toDigits 16 n)

/-- A character by its number. -/
def numbered (c : Char) : String := "\\u\x7b" ++ hexadecimal c.toNat ++ "\x7d"

/-- A byte by its number, in two digits. -/
def numberedByte (byte : UInt8) : String :=
  "\\x" ++ (if byte < 0x10 then "0" else "") ++ hexadecimal byte.toNat

/-- The escape of a character that has a short one in every quoted text. -/
def shortEscape? (c : Char) : Option String :=
  match c with
  | '\t' => some "\\t"
  | '\n' => some "\\n"
  | '\r' => some "\\r"
  | '"' => some "\\\""
  | '\\' => some "\\\\"
  | _ => none

/-- A printable character of ASCII. -/
def isPlain (c : Char) : Bool := ' ' ≤ c && c ≤ '~'

/-- A character in a quoted text. -/
def quotedChar (c : Char) : String :=
  match shortEscape? c with
  | some escape => escape
  | none =>
    if c.toNat = 0 then "\\0"
    else if c.toNat < 0x80 then if isPlain c then c.toString else numbered c
    else if isUnprintable c then numbered c else c.toString

/-- A text between quotes. -/
def quoted (text : String) : String :=
  "\"" ++ String.join (text.toList.map quotedChar) ++ "\""

/-- A piece in quoted bytes. -/
def quotedPiece : Piece → String
  | .invalid bytes => String.join (bytes.map numberedByte)
  | .character c =>
    match shortEscape? c with
    | some escape => escape
    | none =>
      if c.toNat = 39 then "\\" ++ c.toString
      else if c.toNat < 0x80 then
        if isPlain c then c.toString else numberedByte (UInt8.ofNat c.toNat)
      else if isUnprintable c then numbered c else c.toString

/-- Bytes between quotes. -/
def quotedBytes (bytes : Bytes) : String :=
  "\"" ++ String.join ((pieces bytes).map quotedPiece) ++ "\""

end ApkFeatures.Text
