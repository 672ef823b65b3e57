/-
**Numbers of call graph files.**

A number goes on as long as its characters do, and all of them are read or none: an integer is a
sign and digits and has to fit in 64 bits, a real has a point or an exponent besides. A run of such
characters that is neither is an error, whatever part of it is a number.

* `readInteger?_eq_some_iff`, `read?_eq_some_iff` — the readers of integers and decimals accept what
  `IntegerSpelling` and `DecimalSpelling` allow, and nothing else.
* `ofNumber_of_plain`, `ofNumber_of_marked` — the token of a run, or what is wrong with it.
* `next?_number` — the lexer where a number begins.
-/
import ApkFeatures.Proofs.Gml.Position

namespace ApkFeatures.Gml

open ApkFeatures.Number ApkFeatures.Text

/-! ### Spellings of decimals -/

/-- The ways to write a sign; no sign is a plus. -/
inductive SignSpelling : Bool → List Char → Prop where
  | none : SignSpelling false []
  | plus : SignSpelling false ['+']
  | minus : SignSpelling true ['-']

/-- The ways to write the digits of a decimal, at least one, with a point among them or without: the
number they spell, and how many of them stand behind the point. -/
inductive DigitsSpelling : Nat → Nat → List Char → Prop where
  | whole {number : Nat} {digits : List Char} (spelled : Spells 10 digits number) :
      DigitsSpelling number 0 digits
  | point {number : Nat} {whole fraction : List Char}
      (spelled : Spells 10 (whole ++ fraction) number) :
      DigitsSpelling number fraction.length (whole ++ '.' :: fraction)

/-- The ways to write an exponent; none is zero. -/
inductive ExponentSpelling : Int → List Char → Prop where
  | none : ExponentSpelling 0 []
  | some {mark : Char} {exponent : Int} {written : List Char} (marked : mark = 'e' ∨ mark = 'E')
      (spelled : IntegerSpelling exponent written) : ExponentSpelling exponent (mark :: written)

/-- The ways to write a decimal: a sign, digits and an exponent. -/
inductive DecimalSpelling : Decimal → List Char → Prop where
  | parts {negative : Bool} {number places : Nat} {exponent : Int} {sign digits power : List Char}
      (signed : SignSpelling negative sign) (spelled : DigitsSpelling number places digits)
      (scaled : ExponentSpelling exponent power) :
      DecimalSpelling ⟨negative, number, exponent - places⟩ (sign ++ (digits ++ power))

/-! ### Signs -/

/-- A sign is split off, and the rest is left. -/
theorem exists_sign (text : List Char) :
    ∃ sign, SignSpelling (splitSign text).1 sign ∧ text = sign ++ (splitSign text).2 := by
  unfold splitSign
  split
  · exact ⟨['-'], .minus, rfl⟩
  · exact ⟨['+'], .plus, rfl⟩
  · exact ⟨[], .none, rfl⟩

/-- Only one sign is split off. -/
theorem splitSign_append {negative : Bool} {sign body : List Char}
    (signed : SignSpelling negative sign) (unsigned : ∀ c ∈ body.head?, c ≠ '-' ∧ c ≠ '+') :
    splitSign (sign ++ body) = (negative, body) := by
  cases signed with
  | plus => rfl
  | minus => rfl
  | none =>
    rw [List.nil_append]
    unfold splitSign
    split
    · exact absurd rfl (unsigned '-' rfl).1
    · exact absurd rfl (unsigned '+' rfl).2
    · rfl

/-! ### Integers -/

/-- Decimal digits spell the number that is read from them. -/
theorem spells_numeral {digits : List Char} (nonempty : digits ≠ [])
    (decimal : ∀ digit ∈ digits, digit.isDigit = true) : Spells 10 digits (numeral 10 digits) :=
  .of_valued nonempty fun digit member => valued_of_isDigit (decimal digit member)

/-- **The reader of integers accepts the spellings of an integer and nothing else.** -/
theorem readInteger?_eq_some_iff {text : List Char} {number : Int} :
    readInteger? text = some number ↔ IntegerSpelling number text := by
  refine ⟨fun read => ?_, readInteger?_of_spelling⟩
  obtain ⟨sign, signed, whole⟩ := exists_sign text
  unfold readInteger? at read
  cases parts : splitSign text with
  | mk negative digits =>
    rw [parts] at read signed whole
    dsimp only at read signed whole
    split at read
    · cases read
    · rename_i digitsOnly
      rw [Bool.or_eq_true, not_or, List.isEmpty_iff, Bool.not_eq_true', Bool.not_eq_false,
        List.all_eq_true] at digitsOnly
      have spelled := spells_numeral digitsOnly.1 digitsOnly.2
      rw [whole]
      cases signed with
      | none =>
        cases read
        exact .unsigned spelled
      | plus =>
        cases read
        exact .plus spelled
      | minus =>
        cases read
        exact .minus spelled

/-- **An integer is read if it fits in 64 bits.** -/
theorem readInt64?_of_fits {text : List Char} {number : Int}
    (spelled : IntegerSpelling number text) (least : -9223372036854775808 ≤ number)
    (greatest : number ≤ 9223372036854775807) :
    ∃ value : Int64, readInt64? text = some value ∧ value.toInt = number := by
  refine ⟨Int64.ofInt number, ?_, Int64.toInt_ofInt_of_le least (Int.lt_add_one_of_le greatest)⟩
  unfold readInt64?
  rw [readInteger?_of_spelling spelled]
  exact if_pos ⟨least, greatest⟩

/-- Nothing else is read. -/
theorem readInt64?_eq_none {text : List Char}
    (unfit : ∀ number, IntegerSpelling number text →
      number < -9223372036854775808 ∨ 9223372036854775807 < number) :
    readInt64? text = none := by
  unfold readInt64?
  cases read : readInteger? text with
  | none => rfl
  | some number =>
    have outside := unfit number (readInteger?_eq_some_iff.mp read)
    refine if_neg fun fits => ?_
    have least : -9223372036854775808 ≤ number := fits.1
    have greatest : number ≤ 9223372036854775807 := fits.2
    omega

/-! ### Reals -/

theorem readExponent?_eq_some_iff {text : List Char} {exponent : Int} :
    Decimal.readExponent? text = some exponent ↔ ExponentSpelling exponent text := by
  constructor
  · intro read
    cases text with
    | nil =>
      cases read
      exact .none
    | cons mark written =>
      rw [Decimal.readExponent?] at read
      split at read
      · rename_i marked
        exact .some marked (readInteger?_eq_some_iff.mp read)
      · cases read
  · intro spelled
    cases spelled with
    | none => rfl
    | some marked spelled =>
      rw [Decimal.readExponent?, if_pos marked, readInteger?_of_spelling spelled]

/-- No exponent begins as the digits before it go on. -/
theorem head_of_exponent {exponent : Int} {power : List Char}
    (scaled : ExponentSpelling exponent power) :
    ∀ c ∈ power.head?, c.isDigit = false ∧ c ≠ '.' := by
  intro c first
  cases scaled with
  | none => cases first
  | some marked _ =>
    cases first
    rcases marked with rfl | rfl
    · decide
    · decide

/-- Digits begin with no sign. -/
theorem unsigned_of_digits {number places : Nat} {digits : List Char}
    (spelled : DigitsSpelling number places digits) (power : List Char) :
    ∀ c ∈ (digits ++ power).head?, c ≠ '-' ∧ c ≠ '+' := by
  have unsigned : ∀ c : Char, c.isDigit = true → c ≠ '-' ∧ c ≠ '+' := by
    intro c digit
    constructor
    · rintro rfl
      exact absurd digit (by decide)
    · rintro rfl
      exact absurd digit (by decide)
  intro c first
  cases spelled with
  | whole spelled =>
    obtain ⟨digit, digits, rfl⟩ := List.exists_cons_of_ne_nil spelled.ne_nil
    cases first
    exact unsigned _ (spelled.isDigit _ List.mem_cons_self)
  | @point whole fraction spelled =>
    cases whole with
    | nil =>
      cases first
      decide
    | cons digit whole =>
      cases first
      exact unsigned _ (spelled.isDigit _ List.mem_cons_self)

section Parts

variable {text whole fraction power : List Char} {negative : Bool}

/-- A decimal with a point is read in three parts. -/
theorem read?_of_point (parts : splitSign text = (negative, whole ++ '.' :: (fraction ++ power)))
    (digits : ∀ c ∈ whole, c.isDigit = true) (longest : Run Char.isDigit fraction power) :
    Decimal.read? text =
      if whole ++ fraction = [] then none
      else (Decimal.readExponent? power).map fun exponent =>
        ⟨negative, numeral 10 (whole ++ fraction), exponent - fraction.length⟩ := by
  have before : Run Char.isDigit whole ('.' :: (fraction ++ power)) :=
    ⟨digits, fun c first => by cases first; rfl⟩
  unfold Decimal.read?
  rw [parts]
  dsimp only
  rw [before.takeWhile_eq, before.dropWhile_eq]
  split
  · rename_i same
    obtain rfl := (List.cons.inj same).2
    simp only [longest.takeWhile_eq, longest.dropWhile_eq, Bool.and_eq_true, List.isEmpty_iff,
      List.append_eq_nil_iff]
  · rename_i other
    exact absurd rfl (other _)

/-- A decimal without a point is read in two parts. -/
theorem read?_of_whole (parts : splitSign text = (negative, whole ++ power))
    (longest : Run Char.isDigit whole power) (noPoint : ∀ more, power ≠ '.' :: more) :
    Decimal.read? text =
      if whole = [] then none
      else (Decimal.readExponent? power).map fun exponent =>
        ⟨negative, numeral 10 whole, exponent - (0 : Nat)⟩ := by
  unfold Decimal.read?
  rw [parts]
  dsimp only
  rw [longest.takeWhile_eq, longest.dropWhile_eq]
  split
  · exact absurd rfl (noPoint _)
  · simp only [List.isEmpty_nil, Bool.and_true, List.isEmpty_iff, List.append_nil,
      List.length_nil]

end Parts

/-- What is read as a decimal is a spelling of it. -/
theorem DecimalSpelling.of_read? {text : List Char} {decimal : Decimal}
    (read : Decimal.read? text = some decimal) : DecimalSpelling decimal text := by
  obtain ⟨sign, signed, written⟩ := exists_sign text
  cases parts : splitSign text with
  | mk negative body =>
    rw [parts] at signed written
    dsimp only at signed written
    obtain ⟨whole, rest, rfl, longest⟩ := Run.exists_append Char.isDigit body
    by_cases point : ∃ more, rest = '.' :: more
    · obtain ⟨more, rfl⟩ := point
      obtain ⟨fraction, power, rfl, behind⟩ := Run.exists_append Char.isDigit more
      rw [read?_of_point parts longest.inside behind] at read
      obtain ⟨nonempty, given⟩ := Option.ite_none_left_eq_some.mp read
      obtain ⟨exponent, scaled, rfl⟩ := Option.map_eq_some_iff.mp given
      have digits : ∀ c ∈ whole ++ fraction, c.isDigit = true := fun c member =>
        (List.mem_append.mp member).elim (longest.inside c) (behind.inside c)
      have spelled := DigitsSpelling.point (spells_numeral nonempty digits)
      have regrouped : whole ++ '.' :: (fraction ++ power) =
          whole ++ '.' :: fraction ++ power := by
        rw [List.append_assoc, List.cons_append]
      rw [written, regrouped]
      exact .parts signed spelled (readExponent?_eq_some_iff.mp scaled)
    · rw [read?_of_whole parts longest fun more same => point ⟨more, same⟩] at read
      obtain ⟨nonempty, given⟩ := Option.ite_none_left_eq_some.mp read
      obtain ⟨exponent, scaled, rfl⟩ := Option.map_eq_some_iff.mp given
      have spelled := DigitsSpelling.whole (spells_numeral nonempty longest.inside)
      rw [written]
      exact .parts signed spelled (readExponent?_eq_some_iff.mp scaled)

/-- Every spelling of a decimal is read. -/
theorem DecimalSpelling.read?_eq {text : List Char} {decimal : Decimal}
    (spelled : DecimalSpelling decimal text) : Decimal.read? text = some decimal := by
  cases spelled with
  | @parts negative number places exponent sign digits power signed spelled scaled =>
    have stops := head_of_exponent scaled
    have given := readExponent?_eq_some_iff.mpr scaled
    have split := splitSign_append signed (unsigned_of_digits spelled power)
    cases spelled with
    | whole spelled =>
      have longest : Run Char.isDigit digits power :=
        ⟨spelled.isDigit, fun c first => (stops c first).1⟩
      have noPoint : ∀ more, power ≠ '.' :: more := by
        rintro more rfl
        exact (stops '.' rfl).2 rfl
      rw [read?_of_whole split longest noPoint, if_neg spelled.ne_nil, given, spelled.numeral_eq]
      rfl
    | @point whole fraction spelled =>
      have inside := spelled.isDigit
      have longest : Run Char.isDigit fraction power :=
        ⟨fun c member => inside c (List.mem_append_right _ member),
          fun c first => (stops c first).1⟩
      rw [List.append_assoc, List.cons_append] at split ⊢
      rw [read?_of_point split (fun c member => inside c (List.mem_append_left _ member)) longest,
        if_neg spelled.ne_nil, given, spelled.numeral_eq]
      rfl

/-- **The reader of decimals accepts the spellings of a decimal and nothing else.** -/
theorem read?_eq_some_iff {text : List Char} {decimal : Decimal} :
    Decimal.read? text = some decimal ↔ DecimalSpelling decimal text :=
  ⟨.of_read?, DecimalSpelling.read?_eq⟩

/-! ### Tokens -/

/-- The characters of a number: digits, signs, a point and the marks of an exponent. -/
theorem continuesNumber_iff {c : Char} :
    continuesNumber c = true ↔ c.isDigit = true ∨ c ∈ ['+', '-', '.', 'e', 'E'] := by
  simp only [continuesNumber, beginsNumber, Bool.or_eq_true, decide_eq_true_eq, List.mem_cons,
    List.not_mem_nil, or_false]
  tauto

/-- The longest run is told by its characters and by what follows it. -/
theorem longest_eq {text run after : List Char} (whole : text = run ++ after)
    (inside : ∀ c ∈ run, c.isDigit = true ∨ c ∈ ['+', '-', '.', 'e', 'E'])
    (stops : ∀ c ∈ after.head?, ¬ (c.isDigit = true ∨ c ∈ ['+', '-', '.', 'e', 'E'])) :
    run = text.takeWhile continuesNumber ∧ after = text.dropWhile continuesNumber := by
  have longest : Run continuesNumber run after :=
    ⟨fun c member => continuesNumber_iff.mpr (inside c member),
      fun c first => Bool.eq_false_iff.mpr (mt continuesNumber_iff.mp (stops c first))⟩
  rw [whole, longest.takeWhile_eq, longest.dropWhile_eq]
  exact ⟨rfl, rfl⟩

theorem beginsNumber_iff {c : Char} :
    beginsNumber c = true ↔ c.isDigit = true ∨ c ∈ ['+', '-', '.'] := by
  simp only [beginsNumber, Bool.or_eq_true, decide_eq_true_eq, List.mem_cons, List.not_mem_nil,
    or_false]
  tauto

/-- A run has a point or the mark of an exponent. -/
theorem looksReal_iff {run : List Char} :
    looksReal run = true ↔ ∃ c ∈ run, c ∈ ['.', 'e', 'E'] := by
  simp only [looksReal, List.any_eq_true, Bool.or_eq_true, decide_eq_true_eq, List.mem_cons,
    List.not_mem_nil, or_false, or_assoc]

/-- **A run without a point and an exponent is an integer of 64 bits or an error.** -/
theorem ofNumber_of_plain {run : List Char} (plain : ∀ c ∈ run, c ∉ ['.', 'e', 'E']) :
    (∀ number, IntegerSpelling number run → -9223372036854775808 ≤ number →
      number ≤ 9223372036854775807 →
        ∃ value : Int64, value.toInt = number ∧ Token.ofNumber run = .ok (.int value)) ∧
    ((∀ number, IntegerSpelling number run →
        number < -9223372036854775808 ∨ 9223372036854775807 < number) →
      Token.ofNumber run = .error (.invalidInteger (String.ofList run))) := by
  have unmarked : looksReal run = false := by
    rw [Bool.eq_false_iff]
    intro marked
    obtain ⟨c, member, mark⟩ := looksReal_iff.mp marked
    exact plain c member mark
  unfold Token.ofNumber
  rw [if_neg (Bool.eq_false_iff.mp unmarked)]
  constructor
  · intro number spelled least greatest
    obtain ⟨value, read, same⟩ := readInt64?_of_fits spelled least greatest
    exact ⟨value, same, by rw [read]⟩
  · intro unfit
    rw [readInt64?_eq_none unfit]

/-- **A run with a point or an exponent is a decimal or an error.** -/
theorem ofNumber_of_marked {run : List Char} (marked : ∃ c ∈ run, c ∈ ['.', 'e', 'E']) :
    (∀ decimal, DecimalSpelling decimal run →
      Token.ofNumber run = .ok (.real (.ofDecimal decimal))) ∧
    ((∀ decimal, ¬ DecimalSpelling decimal run) →
      Token.ofNumber run = .error (.invalidReal (String.ofList run))) := by
  unfold Token.ofNumber
  rw [if_pos (looksReal_iff.mpr marked), Binary64.read?]
  constructor
  · intro decimal spelled
    rw [read?_eq_some_iff.mpr spelled]
    rfl
  · intro none
    cases read : Decimal.read? run with
    | none => rfl
    | some decimal => exact absurd (read?_eq_some_iff.mp read) (none decimal)

/-- **A run of a number is one token or one fault**, behind a gap and before what ends the run. -/
theorem next?_of_number {gap more after : List Char} {c : Char} (isGap : Gap gap)
    (begins : beginsNumber c = true) (longest : Run continuesNumber more after) (line : Nat) :
    next? line (gap ++ c :: (more ++ after)) =
      match Token.ofNumber (c :: more) with
      | .ok token =>
        .ok (line + gap.count '\n', some ⟨token, line + gap.count '\n', after⟩)
      | .error reason => .error ⟨line + gap.count '\n', reason⟩ := by
  have range := toNat_of_beginsNumber begins
  have notMark : c ≠ '#' := by
    rintro rfl
    exact absurd begins (by decide)
  have skipped : skipGap false line (gap ++ c :: (more ++ after)) =
      (line + gap.count '\n', c :: (more ++ after)) := by
    rw [skipGap_gap isGap, skipGap_of_not_gap (not_isBlank (by omega) (by omega)) notMark]
  cases converted : Token.ofNumber (c :: more) with
  | ok token =>
    exact next?_eq_some_iff.mpr
      ⟨_, c, more ++ after, skipped, .number begins longest converted, rfl⟩
  | error reason =>
    have bad : Malformed (c :: (more ++ after)) reason (c :: more) :=
      .number begins longest converted
    refine next?_eq_error_iff.mpr ⟨gap, _, c :: more, rfl, isGap, bad, ?_⟩
    rw [List.count_append, bad.count_newline, Nat.add_zero]

/-- **Numbers are read exactly or refused.** Where a token begins with a digit, a sign or a point,
the lexer takes the longest run of digits, signs, points and marks of an exponent. Without a point
and such a mark the run is an integer, with its sign and all its digits, if it spells one of 64
bits, and an error if not. Otherwise it is a real if it spells a decimal, and an error if not. What
follows is read from the end of the run. -/
theorem next?_number {gap rest : List Char} {c : Char} (isGap : Gap gap)
    (begins : c.isDigit = true ∨ c ∈ ['+', '-', '.']) (line : Nat) :
    ∃ run after, c :: rest = run ++ after ∧
      (∀ d ∈ run, d.isDigit = true ∨ d ∈ ['+', '-', '.', 'e', 'E']) ∧
      (∀ d ∈ after.head?, ¬ (d.isDigit = true ∨ d ∈ ['+', '-', '.', 'e', 'E'])) ∧
      let reached := line + gap.count '\n'
      let next := next? line (gap ++ c :: rest)
      ((∀ d ∈ run, d ∉ ['.', 'e', 'E']) →
        (∀ number, IntegerSpelling number run → -9223372036854775808 ≤ number →
          number ≤ 9223372036854775807 → ∃ value : Int64, value.toInt = number ∧
            next = .ok (reached, some ⟨.int value, reached, after⟩)) ∧
        ((∀ number, IntegerSpelling number run →
            number < -9223372036854775808 ∨ 9223372036854775807 < number) →
          next = .error ⟨reached, .invalidInteger (String.ofList run)⟩)) ∧
      ((∃ d ∈ run, d ∈ ['.', 'e', 'E']) →
        (∀ decimal, DecimalSpelling decimal run →
          next = .ok (reached, some ⟨.real (.ofDecimal decimal), reached, after⟩)) ∧
        ((∀ decimal, ¬ DecimalSpelling decimal run) →
          next = .error ⟨reached, .invalidReal (String.ofList run)⟩)) := by
  have first := beginsNumber_iff.mpr begins
  obtain ⟨more, after, rfl, longest⟩ := Run.exists_append continuesNumber rest
  have inside : ∀ d ∈ c :: more, continuesNumber d = true := by
    intro d member
    rcases List.mem_cons.mp member with rfl | member
    · simp [continuesNumber, first]
    · exact longest.inside d member
  have stops : ∀ d ∈ after.head?, ¬ continuesNumber d = true := fun d next =>
    Bool.eq_false_iff.mp (longest.stops d next)
  refine ⟨c :: more, after, rfl, fun d member => continuesNumber_iff.mp (inside d member),
    fun d next => mt continuesNumber_iff.mpr (stops d next), ?_⟩
  dsimp only
  rw [next?_of_number isGap first longest]
  constructor
  · intro plain
    obtain ⟨integer, refused⟩ := ofNumber_of_plain plain
    refine ⟨fun number spelled least greatest => ?_, fun unfit => by rw [refused unfit]⟩
    obtain ⟨value, same, converted⟩ := integer number spelled least greatest
    exact ⟨value, same, by rw [converted]⟩
  · intro marked
    obtain ⟨real, refused⟩ := ofNumber_of_marked marked
    exact ⟨fun decimal spelled => by rw [real decimal spelled], fun none => by rw [refused none]⟩

/-- The least integer behind a comment, the one above the greatest, and a real with an exponent that
has no digits. -/
theorem next?_number_sample :
    next? 1 "#x\n-9223372036854775808]".toList =
        .ok (2, some ⟨.int Int64.minValue, 2, "]".toList⟩) ∧
      next? 1 "9223372036854775808".toList =
        .error ⟨1, .invalidInteger "9223372036854775808"⟩ ∧
        next? 1 "+.5e-]".toList = .error ⟨1, .invalidReal "+.5e-"⟩ := by
  have unmarked : ∀ {run}, looksReal run = false → ∀ d ∈ run, d ∉ ['.', 'e', 'E'] :=
    fun plain d member marked =>
      Bool.eq_false_iff.mp plain (looksReal_iff.mpr ⟨d, member, marked⟩)
  refine ⟨?_, ?_, ?_⟩
  · have comment : Gap "#x\n".toList := @Gap.comment ['x'] [] (by decide) .nil
    obtain ⟨run, after, whole, inside, stops, plain, _⟩ :=
      @next?_number _ "9223372036854775808]".toList '-' comment (by decide) 1
    obtain ⟨rfl, rfl⟩ := longest_eq whole inside stops
    have spelled : IntegerSpelling (-9223372036854775808) "-9223372036854775808".toList :=
      .minus (@spells_numeral "9223372036854775808".toList (by decide)
        (List.all_eq_true.mp (by decide)))
    obtain ⟨value, same, read⟩ := (plain (unmarked (by decide))).1 _ spelled (by decide) (by decide)
    obtain rfl : value = Int64.minValue := Int64.toInt_inj.mp same
    exact read
  · obtain ⟨run, after, whole, inside, stops, plain, _⟩ :=
      @next?_number [] "223372036854775808".toList '9' .nil (by decide) 1
    obtain ⟨rfl, rfl⟩ := longest_eq whole inside stops
    refine (plain (unmarked (by decide))).2 fun number spelled => .inr ?_
    have read := readInteger?_of_spelling spelled
    obtain rfl : 9223372036854775808 = number := Option.some.inj read
    decide
  · obtain ⟨run, after, whole, inside, stops, _, marked⟩ :=
      @next?_number [] ".5e-]".toList '+' .nil (by decide) 1
    obtain ⟨rfl, rfl⟩ := longest_eq whole inside stops
    refine (marked (looksReal_iff.mp (by decide))).2 fun decimal spelled => ?_
    have read := read?_eq_some_iff.mpr spelled
    cases read

end ApkFeatures.Gml
