/-
**Binary floating point numbers of 64 bits.**

A real of a call graph file stands for the binary64 number nearest to its decimal text, a tie going
to the even significand. `Binary64.ofDecimal` computes it exactly on natural numbers, so no rounding
of an intermediate result can be seen.
-/
import ApkFeatures.Number.Decimal

namespace ApkFeatures.Number

/-- A number of the format binary64, by its bit pattern. -/
structure Binary64 where
  /-- Sign, biased exponent and trailing significand, the sign at the top. -/
  bits : UInt64
deriving Repr, DecidableEq

/-- The number of decimal digits of a number, one for zero. -/
def digitCount (n : Nat) : Nat := (Nat.toDigits 10 n).length

/-- The quotient rounded to the nearest integer, a tie to the even one. -/
def roundDiv (num den : Nat) : Nat :=
  let quotient := num / den
  match compare (2 * (num % den)) den with
  | .lt => quotient
  | .gt => quotient + 1
  | .eq => if quotient % 2 = 0 then quotient else quotient + 1

/-- `num * base ^ exponent / den` as a fraction of natural numbers. -/
def scale (base : Nat) (exponent : Int) (num den : Nat) : Nat × Nat :=
  (num * Nat.pow base exponent.toNat, den * Nat.pow base (-exponent).toNat)

namespace Binary64

/-- The bit pattern of infinity without its sign. -/
def infinityBits : Nat := 0x7FF * Nat.pow 2 52

/-- Whether the sign bit is set. -/
def isNegative (x : Binary64) : Bool := Nat.pow 2 63 ≤ x.bits.toNat

/-- The bit pattern without its sign. -/
def magnitude (x : Binary64) : Nat := x.bits.toNat % Nat.pow 2 63

/-- The number with the given sign and pattern. -/
def ofParts (negative : Bool) (magnitude : Nat) : Binary64 :=
  ⟨UInt64.ofNat (if negative then Nat.pow 2 63 + magnitude else magnitude)⟩

/-- The pattern of the number nearest to a positive fraction, or of infinity if it is too large.

The step of the result is `2 ^ step` with the least `step` for which the significand has at most 53
bits. Patterns of neighbouring numbers are neighbours, so a significand that rounds up to `2 ^ 53`
gives the next binade without a case of its own. -/
def nearest (num den : Nat) : Nat :=
  let estimate : Int := (num.log2 : Int) - den.log2 - 53
  let (below, above) := scale 2 (-(estimate + 53)) num den
  let step := max (-1074) (if above ≤ below then estimate + 1 else estimate)
  let (scaledNum, scaledDen) := scale 2 (-step) num den
  min infinityBits ((step + 1074).toNat * Nat.pow 2 52 + roundDiv scaledNum scaledDen)

/-- The number nearest to a decimal.

A decimal above `10 ^ 310` is infinity and one below `10 ^ (-330)` is zero whatever its digits, so
no large power is ever built. -/
def ofDecimal (decimal : Decimal) : Binary64 :=
  let size : Int := digitCount decimal.digits + decimal.exponent
  ofParts decimal.negative <|
    if decimal.digits = 0 ∨ size < -330 then 0
    else if 310 < size then infinityBits
    else
      let (num, den) := scale 10 decimal.exponent decimal.digits 1
      nearest num den

/-- Reads a decimal text. -/
def read? (text : List Char) : Option Binary64 :=
  (Decimal.read? text).map ofDecimal

end Binary64

end ApkFeatures.Number
