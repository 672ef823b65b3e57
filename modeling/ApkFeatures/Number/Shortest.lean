/-
**Shortest decimal text of a number.**

The text of a binary64 number has the fewest digits that read back as the same number and, of those,
the nearest to it. It is always positional: an exponent is never written, nor a point without digits
after it.
-/
import ApkFeatures.Number.Binary64

namespace ApkFeatures.Number

/-- A positive finite number `significand * 2 ^ step`. -/
structure Scaled where
  /-- The integer significand. -/
  significand : Nat
  /-- The power of two of its last bit. -/
  step : Int
  /-- The gap to the number below is half the gap to the number above. -/
  narrowBelow : Bool

/-- The parts of the pattern of a finite number. -/
def Scaled.ofMagnitude (magnitude : Nat) : Scaled :=
  let exponent : Nat := magnitude / Nat.pow 2 52
  let trailing : Nat := magnitude % Nat.pow 2 52
  if exponent = 0 then ⟨trailing, -1074, false⟩
  else ⟨Nat.pow 2 52 + trailing, (exponent : Int) - 1075, trailing = 0 ∧ 1 < exponent⟩

/-- Compares `digits * 10 ^ exponent` with `n * 2 ^ step`. -/
def compareScaled (digits : Nat) (exponent : Int) (n : Nat) (step : Int) : Ordering :=
  compare (digits * Nat.pow 10 exponent.toNat * Nat.pow 2 (-step).toNat)
    (n * Nat.pow 2 step.toNat * Nat.pow 10 (-exponent).toNat)

/-- The decimal lies among the reals whose nearest number is `x`. The ends of that interval belong
to it if the significand is even. -/
def Scaled.readsBack (x : Scaled) (digits : Nat) (exponent : Int) : Bool :=
  let lower := if x.narrowBelow then 4 * x.significand - 1 else 4 * x.significand - 2
  let upper := 4 * x.significand + 2
  let closed := x.significand % 2 = 0
  let fromLower := compareScaled digits exponent lower (x.step - 2)
  let fromUpper := compareScaled digits exponent upper (x.step - 2)
  (fromLower = .gt || (closed && fromLower = .eq)) &&
    (fromUpper = .lt || (closed && fromUpper = .eq))

/-- The power of ten just above the number. -/
def Scaled.size (x : Scaled) : Int :=
  let (num, den) := scale 2 x.step x.significand 1
  let estimate : Int := (digitCount num : Int) - digitCount den
  if compareScaled 1 estimate x.significand x.step = .gt then estimate else estimate + 1

/-- The decimal with the given last power of ten that reads back and is nearest, if one does. Of two
that are equally near it is the larger one. -/
def Scaled.onGrid? (x : Scaled) (exponent : Int) : Option (Nat × Int) :=
  let (num, den) := scale 2 x.step x.significand 1
  let (num, den) := scale 10 (-exponent) num den
  let below := num / den
  let belowReads := x.readsBack below exponent
  let aboveReads := x.readsBack (below + 1) exponent
  if belowReads && (!aboveReads || 2 * (num % den) < den) then some (below, exponent)
  else if aboveReads then some (below + 1, exponent)
  else none

/-- The same decimal without zeros at the end of its digits. -/
def withoutTrailingZeros (digits : Nat) (exponent : Int) : Nat × Int :=
  if digits ≠ 0 ∧ digits % 10 = 0 then withoutTrailingZeros (digits / 10) (exponent + 1)
  else (digits, exponent)
termination_by digits

/-- The shortest decimal that reads back: the first grid with a hit, from one digit to seventeen. A
hit just above a power of ten can be that power itself, which has fewer digits than its grid. -/
def Scaled.shortest (x : Scaled) : Nat × Int :=
  let hit? := (List.range 17).findSome? fun (extra : Nat) => x.onGrid? (x.size - 1 - extra)
  let (digits, exponent) := hit?.getD (0, 0)
  withoutTrailingZeros digits exponent

/-- The text of `digits * 10 ^ exponent` without an exponent. -/
def positional (digits : Nat) (exponent : Int) : List Char :=
  let shown := Nat.toDigits 10 digits
  if 0 ≤ exponent then shown ++ List.replicate exponent.toNat '0'
  else
    let places := (-exponent).toNat
    let padded := List.replicate (places + 1 - shown.length) '0' ++ shown
    padded.take (padded.length - places) ++ '.' :: padded.drop (padded.length - places)

/-- The text of a number. -/
def Binary64.text (x : Binary64) : String :=
  let magnitude := x.magnitude
  let shown :=
    if magnitude = 0 then ['0']
    else if magnitude = infinityBits then "inf".toList
    else if infinityBits < magnitude then "NaN".toList
    else
      let (digits, exponent) := (Scaled.ofMagnitude magnitude).shortest
      positional digits exponent
  String.ofList (if x.isNegative then '-' :: shown else shown)

end ApkFeatures.Number
