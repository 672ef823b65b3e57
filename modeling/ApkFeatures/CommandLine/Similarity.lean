/-
**How similar two words are.**

Characters of two words match if they are equal and not too far apart; matches that come earlier
than the one before are out of order. The similarity is the mean of three shares: of the
characters of each word that match, and of the matches that are in order. A common beginning
raises it. Similarities are fractions, so no rounding is involved.

* `isSimilar` — two words are more than four fifths similar.
-/

namespace ApkFeatures.CommandLine

/-- The matches found in the beginning of a word. -/
structure Matches where
  /-- The positions in the other word that have been matched. -/
  used : List Nat
  /-- The position of the last match. -/
  last : Nat
  /-- How many matches are out of order. -/
  disordered : Nat

/-- Looks for a match of a character: the first free position within reach. -/
def Matches.add (other : List Char) (reach : Nat) (found : Matches) (place : Nat × Char) :
    Matches :=
  match (other.zipIdx.find? fun (c, position) =>
      c = place.2 && place.1 - reach ≤ position && position ≤ place.1 + reach &&
        !found.used.contains position).map Prod.snd with
  | none => found
  | some position =>
    ⟨position :: found.used, position,
      found.disordered + (if position < found.last then 1 else 0)⟩

/-- The matches of a word in another. -/
def matchesOf (word other : List Char) : Matches :=
  (word.zipIdx.map fun (c, position) => (position, c)).foldl
    (Matches.add other (max word.length other.length / 2 - 1)) ⟨[], 0, 0⟩

/-- A fraction, as its numerator and its denominator. -/
abbrev Fraction := Nat × Nat

/-- The similarity of two words without regard to their beginning. -/
def meanShare (word other : List Char) : Fraction :=
  let found := matchesOf word other
  let hits := found.used.length
  let a := word.length
  let b := other.length
  if word = other then (1, 1)
  else if hits = 0 ∨ a = 1 ∧ b = 1 then (0, 1)
  else (hits * hits * b + hits * hits * a + (hits - found.disordered) * a * b, 3 * a * b * hits)

/-- The length of the common beginning of two words. -/
def commonLength : List Char → List Char → Nat
  | a :: word, b :: other => if a = b then commonLength word other + 1 else 0
  | _, _ => 0

/-- Two words are more than four fifths similar. The common beginning closes a tenth of the gap to
complete similarity for each of its characters. -/
def isSimilar (word other : List Char) : Bool :=
  let (share, whole) := meanShare word other
  let gap := whole - share
  4 * 10 * whole < 5 * (10 * share + commonLength word other * gap)

end ApkFeatures.CommandLine
