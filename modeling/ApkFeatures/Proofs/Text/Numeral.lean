/-
**Written numbers, and the characters they are made of.**

`Spells` says which runs of digits stand for a number in a base: a digit, or a run followed by one
more digit. Zeros may lead, and a digit above nine has two forms.

* `isDigit_iff`, `isAlpha_iff`, `bounds_of_isBlank` — the classes of characters as ranges of code
  points, so that what keeps them apart is arithmetic.
* `Spells.numeral_eq`, `Spells.iff_numeral` — the reader of digits gives the number that they spell, and
  every run of digits spells one.
* `scalar?_toNat`, `toNat_of_scalar?` — a character is the one that has its number.
-/
import Mathlib.Data.List.Induction
import ApkFeatures.Text.Blank
import ApkFeatures.Text.Numeral

namespace ApkFeatures.Text

/-! ### Classes of characters -/

theorem isDigit_iff (c : Char) : c.isDigit = true ↔ 48 ≤ c.toNat ∧ c.toNat ≤ 57 := by
  simp only [Char.isDigit, Bool.and_eq_true, decide_eq_true_eq, ge_iff_le, UInt32.le_iff_toNat_le]
  rfl

theorem isAlpha_iff (c : Char) : c.isAlpha = true ↔
    (65 ≤ c.toNat ∧ c.toNat ≤ 90) ∨ (97 ≤ c.toNat ∧ c.toNat ≤ 122) := by
  show (decide (65 ≤ c.val ∧ c.val ≤ 90) || (decide (97 ≤ c.val) && decide (c.val ≤ 122))) = true ↔
    _
  simp only [Bool.or_eq_true, Bool.and_eq_true, decide_eq_true_eq, UInt32.le_iff_toNat_le]
  rfl

/-- No blank lies between the space and the end of the ASCII characters. -/
theorem bounds_of_isBlank {c : Char} (blank : isBlank c = true) : c.toNat ≤ 32 ∨ 133 ≤ c.toNat := by
  simp only [isBlank, blankRanges, List.any_cons, List.any_nil, Bool.or_false, Bool.or_eq_true,
    Bool.and_eq_true, decide_eq_true_eq] at blank
  omega

/-! ### Digits -/

/-- A digit whose value is at most nine is a decimal one. -/
theorem isDigit_of_value {digit : Char} {value : Nat} (valued : hexDigit? digit = some value)
    (small : value < 10) : digit.isDigit = true := by
  unfold hexDigit? at valued
  split at valued
  · assumption
  split at valued
  · cases valued
    omega
  split at valued
  · cases valued
    omega
  · cases valued

/-- A decimal digit has a value of at most nine. -/
theorem valued_of_isDigit {digit : Char} (decimal : digit.isDigit = true) :
    ∃ value, hexDigit? digit = some value ∧ value < 10 := by
  have range := (isDigit_iff digit).mp decimal
  refine ⟨digit.toNat - '0'.toNat, if_pos decimal, ?_⟩
  show digit.toNat - 48 < 10
  omega

/-- A digit of base sixteen has a value of at most fifteen. -/
theorem valued_of_isHexDigit {digit : Char} (hexadecimal : isHexDigit digit = true) :
    ∃ value, hexDigit? digit = some value ∧ value < 16 := by
  obtain ⟨value, found⟩ := Option.isSome_iff_exists.mp hexadecimal
  refine ⟨value, found, ?_⟩
  unfold hexDigit? at found
  split at found
  · rename_i decimal
    have range := (isDigit_iff digit).mp decimal
    cases found
    show digit.toNat - 48 < 16
    omega
  split at found
  · rename_i letter
    have last : digit.toNat ≤ 102 := UInt32.le_iff_toNat_le.mp letter.2
    cases found
    show digit.toNat - 97 + 10 < 16
    omega
  split at found
  · rename_i letter
    have last : digit.toNat ≤ 70 := UInt32.le_iff_toNat_le.mp letter.2
    cases found
    show digit.toNat - 65 + 10 < 16
    omega
  · cases found

theorem numeral_concat (base : Nat) (digits : List Char) (last : Char) :
    numeral base (digits ++ [last]) = base * numeral base digits + (hexDigit? last).getD 0 := by
  unfold numeral
  rw [List.foldl_append]
  rfl

/-- The digits stand for the number in the base, the leading digit first. -/
inductive Spells (base : Nat) : List Char → Nat → Prop where
  | digit {digit : Char} {value : Nat} (valued : hexDigit? digit = some value)
      (small : value < base) : Spells base [digit] value
  | more {digits : List Char} {number : Nat} {digit : Char} {value : Nat}
      (front : Spells base digits number) (valued : hexDigit? digit = some value)
      (small : value < base) : Spells base (digits ++ [digit]) (base * number + value)

namespace Spells

variable {base number : Nat} {digits : List Char}

theorem ne_nil (spells : Spells base digits number) : digits ≠ [] := by
  cases spells with
  | digit => exact List.cons_ne_nil _ _
  | more => exact List.append_ne_nil_of_right_ne_nil _ (List.cons_ne_nil _ _)

/-- Every character is a digit of the base. -/
theorem valued (spells : Spells base digits number) :
    ∀ digit ∈ digits, ∃ value, hexDigit? digit = some value ∧ value < base := by
  induction spells with
  | digit found small =>
    intro digit member
    rw [List.mem_singleton.mp member]
    exact ⟨_, found, small⟩
  | more _ found small ih =>
    intro digit member
    rcases List.mem_append.mp member with front | last
    · exact ih digit front
    · rw [List.mem_singleton.mp last]
      exact ⟨_, found, small⟩

theorem isHexDigit (spells : Spells base digits number) :
    ∀ digit ∈ digits, Text.isHexDigit digit = true := by
  intro digit member
  obtain ⟨value, found, _⟩ := spells.valued digit member
  unfold Text.isHexDigit
  rw [found]
  rfl

/-- What is no digit in any base is not among the digits. -/
theorem not_mem {c : Char} (spells : Spells base digits number)
    (other : Text.isHexDigit c = false) : c ∉ digits := fun member =>
  Bool.eq_false_iff.mp other (spells.isHexDigit c member)

theorem isDigit (spells : Spells 10 digits number) : ∀ digit ∈ digits, digit.isDigit = true := by
  intro digit member
  obtain ⟨value, found, small⟩ := spells.valued digit member
  exact isDigit_of_value found small

/-- **Reading digits gives the number they spell.** -/
theorem numeral_eq (spells : Spells base digits number) : numeral base digits = number := by
  induction spells with
  | digit found _ => simp [numeral, found]
  | @more digits number digit value _ found _ ih =>
    rw [numeral_concat, ih, found]
    rfl

/-- **Every run of digits of a base spells a number in it.** -/
theorem of_valued {digits : List Char} (nonempty : digits ≠ [])
    (valued : ∀ digit ∈ digits, ∃ value, hexDigit? digit = some value ∧ value < base) :
    Spells base digits (numeral base digits) := by
  induction digits using List.reverseRecOn with
  | nil => exact absurd rfl nonempty
  | append_singleton digits last ih =>
    obtain ⟨value, found, small⟩ := valued last (List.mem_append_right _ List.mem_cons_self)
    have given : numeral base (digits ++ [last]) = base * numeral base digits + value := by
      rw [numeral_concat, found]
      rfl
    rw [given]
    cases digits with
    | nil => simpa [numeral] using Spells.digit found small
    | cons first others =>
      exact .more (ih (List.cons_ne_nil _ _) fun digit member =>
        valued digit (List.mem_append_left _ member)) found small

/-- **A run of digits spells the number that is read from it**, and no other. -/
theorem iff_numeral : Spells base digits number ↔
    digits ≠ [] ∧ (∀ digit ∈ digits, ∃ value, hexDigit? digit = some value ∧ value < base) ∧
      numeral base digits = number := by
  constructor
  · exact fun spells => ⟨spells.ne_nil, spells.valued, spells.numeral_eq⟩
  · rintro ⟨nonempty, valued, rfl⟩
    exact of_valued nonempty valued

end Spells

/-- The character that has the number of a character is that character. -/
theorem scalar?_toNat (c : Char) : scalar? c.toNat = some c := by
  have valid : c.toNat.isValidChar := c.valid
  unfold scalar?
  rw [dif_pos valid]
  rfl

/-- **A number that gives a character is the number of that character.** -/
theorem toNat_of_scalar? {number : Nat} {c : Char} (given : scalar? number = some c) :
    c.toNat = number := by
  obtain ⟨valid, same⟩ := Option.dite_none_right_eq_some.mp given
  cases same
  rfl

end ApkFeatures.Text
