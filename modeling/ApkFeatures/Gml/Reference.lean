/-
**Character references.**

A text of a call graph file may write a character as a reference: `&#` and a decimal number, `&#x`
and a hexadecimal number, or `&` and one of five names, each ended by a semicolon. `unescape`
replaces the references in one pass, so the character a reference gives is never read again.

* `unescape_of_not_mem` — a text without an ampersand is left as it is.
-/
import ApkFeatures.Text.Numeral

namespace ApkFeatures.Gml

open ApkFeatures.Text

/-- The characters that have a name, with their names. -/
def namedReferences : List (List Char × Char) :=
  [("quot".toList, '"'), ("amp".toList, '&'), ("lt".toList, '<'), ("gt".toList, '>'),
    ("apos".toList, Char.ofNat 39)]

/-- A number in a base up to its semicolon: the character, and the length with the semicolon. -/
def numbered? (base : Nat) (isDigit : Char → Bool) (text : List Char) : Option (Char × Nat) :=
  let digits := text.takeWhile isDigit
  if digits.isEmpty || (text.dropWhile isDigit).head? ≠ some ';' then none
  else (scalar? (numeral base digits)).map fun c => (c, digits.length + 1)

/-- The reference after an ampersand: its character, and how much of the text it takes. -/
def reference? (text : List Char) : Option (Char × Nat) :=
  match text with
  | '#' :: 'x' :: rest | '#' :: 'X' :: rest =>
    (numbered? 16 isHexDigit rest).map fun (c, size) => (c, size + 2)
  | '#' :: rest => (numbered? 10 Char.isDigit rest).map fun (c, size) => (c, size + 1)
  | _ => namedReferences.findSome? fun (name, c) =>
      if (name ++ [';']).isPrefixOf text then some (c, name.length + 1) else none

/-- Resolves the character references of a text. What is no reference stays as it is. -/
def unescape : List Char → List Char
  | [] => []
  | c :: rest =>
    if c = '&' then
      match reference? rest with
      | some (shown, size) => shown :: unescape (rest.drop size)
      | none => c :: unescape rest
    else c :: unescape rest
termination_by text => text.length
decreasing_by all_goals simp only [List.length_drop, List.length_cons]; omega

/-- A text without an ampersand is left as it is. -/
theorem unescape_of_not_mem {text : List Char} (plain : '&' ∉ text) : unescape text = text := by
  induction text with
  | nil => simp [unescape]
  | cons c rest ih =>
    rw [List.mem_cons, not_or] at plain
    rw [unescape, if_neg (Ne.symm plain.1), ih plain.2]

end ApkFeatures.Gml
