/-
**Numbers in decimal digits.**

Reads the two written forms of a number: an integer is an optional sign and digits, a decimal has
a point or an exponent besides. Both refuse a text of which they cannot use every character.
-/
import ApkFeatures.Text.Numeral

namespace ApkFeatures.Number

/-- The sign of a number, and what follows it. No sign is a plus. -/
def splitSign : List Char → Bool × List Char
  | '-' :: rest => (true, rest)
  | '+' :: rest => (false, rest)
  | rest => (false, rest)

/-- Reads an optional sign and one or more digits. -/
def readInteger? (text : List Char) : Option Int :=
  let (negative, digits) := splitSign text
  if digits.isEmpty || !digits.all Char.isDigit then none
  else if negative then some (-(Text.numeral 10 digits : Int))
  else some (Text.numeral 10 digits : Int)

/-- Reads an integer that fits in a signed word of 64 bits. -/
def readInt64? (text : List Char) : Option Int64 :=
  match readInteger? text with
  | none => none
  | some value =>
    if Int64.minValue.toInt ≤ value ∧ value ≤ Int64.maxValue.toInt then some (Int64.ofInt value)
    else none

/-- A number in decimal notation, `digits * 10 ^ exponent` with a sign. -/
structure Decimal where
  /-- Whether a minus sign stands before the digits; zero has one too. -/
  negative : Bool
  /-- The digits without the point, as one number. -/
  digits : Nat
  /-- The power of ten of the last digit. -/
  exponent : Int
deriving Repr, DecidableEq

namespace Decimal

/-- Reads the end of a decimal: nothing, or `e` and an integer. -/
def readExponent? : List Char → Option Int
  | [] => some 0
  | mark :: rest => if mark = 'e' ∨ mark = 'E' then readInteger? rest else none

/-- Reads an optional sign, digits with at most one point and at least one digit, and an optional
exponent. -/
def read? (text : List Char) : Option Decimal :=
  let (negative, body) := splitSign text
  let whole := body.takeWhile Char.isDigit
  let (fraction, rest) :=
    match body.dropWhile Char.isDigit with
    | '.' :: rest => (rest.takeWhile Char.isDigit, rest.dropWhile Char.isDigit)
    | rest => ([], rest)
  if whole.isEmpty && fraction.isEmpty then none
  else (readExponent? rest).map fun exponent =>
    ⟨negative, Text.numeral 10 (whole ++ fraction), exponent - fraction.length⟩

end Decimal

end ApkFeatures.Number
