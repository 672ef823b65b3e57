/-
**How tokens may be written.**

A token has many spellings: an integer may have a sign and leading zeros, and a character of a text
may stand for itself, have a name or be given by its number. `Token.Spelling` lists them all.

* `unescape_of_spelling` — resolving the references of a written text gives the text.
* `readInteger?_of_spelling` — reading a written integer gives the integer.
* `Token.Spelling.isReadFrom` — the lexer takes every spelling of a token for the token, if no
  character follows a word that would go on with it.
-/
import ApkFeatures.Proofs.Gml.Lexing

namespace ApkFeatures.Gml

open ApkFeatures.Number ApkFeatures.Text

/-! ### Spellings -/

/-- The ways to write a character of a text: as itself, by its name, or by its number in decimal or
hexadecimal digits. -/
inductive CharSpelling : Char → List Char → Prop where
  | literal {c : Char} (notQuote : c ≠ '"') (notMark : c ≠ '&') : CharSpelling c [c]
  | quot : CharSpelling '"' "&quot;".toList
  | amp : CharSpelling '&' "&amp;".toList
  | lt : CharSpelling '<' "&lt;".toList
  | gt : CharSpelling '>' "&gt;".toList
  | apos : CharSpelling (Char.ofNat 39) "&apos;".toList
  | decimal {c : Char} {digits : List Char} (spelled : Spells 10 digits c.toNat) :
      CharSpelling c ('&' :: '#' :: (digits ++ [';']))
  | hexadecimal {c mark : Char} {digits : List Char} (marked : mark = 'x' ∨ mark = 'X')
      (spelled : Spells 16 digits c.toNat) :
      CharSpelling c ('&' :: '#' :: mark :: (digits ++ [';']))

/-- The ways to write a text, each character on its own. -/
inductive TextSpelling : List Char → List Char → Prop where
  | nil : TextSpelling [] []
  | cons {c : Char} {text spelling written : List Char} (first : CharSpelling c spelling)
      (more : TextSpelling text written) : TextSpelling (c :: text) (spelling ++ written)

/-- The ways to write an integer. -/
inductive IntegerSpelling : Int → List Char → Prop where
  | unsigned {number : Nat} {digits : List Char} (spelled : Spells 10 digits number) :
      IntegerSpelling number digits
  | plus {number : Nat} {digits : List Char} (spelled : Spells 10 digits number) :
      IntegerSpelling number ('+' :: digits)
  | minus {number : Nat} {digits : List Char} (spelled : Spells 10 digits number) :
      IntegerSpelling (-number) ('-' :: digits)

/-- The ways to write a token. -/
inductive Token.Spelling : Token → List Char → Prop where
  | key {c : Char} {more : List Char} (first : c.isAlpha = true ∨ c = '_')
      (others : ∀ d ∈ more, d.isAlphanum = true ∨ d = '_') :
      Spelling (.key (String.ofList (c :: more))) (c :: more)
  | int {value : Int64} {written : List Char} (spelled : IntegerSpelling value.toInt written) :
      Spelling (.int value) written
  | real {value : Binary64} {written : List Char}
      (marks : ∀ c ∈ written, c.isDigit = true ∨ c ∈ ['+', '-', '.', 'e', 'E'])
      (looks : ∃ c ∈ written, c ∈ ['.', 'e', 'E'])
      (read : Binary64.read? written = some value) : Spelling (.real value) written
  | text {value : String} {written : List Char} (spelled : TextSpelling value.toList written) :
      Spelling (.text value) ('"' :: (written ++ ['"']))
  | opening : Spelling .opening ['[']
  | closing : Spelling .closing [']']

/-! ### Texts -/

theorem unescape_reference {rest : List Char} {c : Char} {size : Nat}
    (found : reference? rest = some (c, size)) :
    unescape ('&' :: rest) = c :: unescape (rest.drop size) := by
  rw [unescape, if_pos rfl, found]

/-- A number up to its semicolon is the character that has it, if there is one. -/
theorem numbered?_of_spells {base number : Nat} {isDigit : Char → Bool} {digits : List Char}
    (spelled : Spells base digits number) (inside : ∀ digit ∈ digits, isDigit digit = true)
    (ends : isDigit ';' = false) (rest : List Char) :
    numbered? base isDigit (digits ++ ';' :: rest) =
      (scalar? number).map fun c => (c, digits.length + 1) := by
  have stops : ∀ d ∈ (';' :: rest).head?, isDigit d = false := by
    intro d first
    cases first
    exact ends
  have longest : Run isDigit digits (';' :: rest) := ⟨inside, stops⟩
  unfold numbered?
  rw [longest.takeWhile_eq, longest.dropWhile_eq]
  simp [spelled.ne_nil, spelled.numeral_eq]

theorem reference?_decimal {digits : List Char} {number : Nat} (spelled : Spells 10 digits number)
    (rest : List Char) :
    reference? ('#' :: (digits ++ ';' :: rest)) =
      (scalar? number).map fun c => (c, digits.length + 2) := by
  have numbered := numbered?_of_spells spelled spelled.isDigit (by decide) rest
  obtain ⟨digit, digits, rfl⟩ := List.exists_cons_of_ne_nil spelled.ne_nil
  have decimal := spelled.isDigit digit List.mem_cons_self
  unfold reference?
  split
  · rename_i same
    obtain ⟨rfl, _⟩ := List.cons.inj (List.cons.inj same).2
    exact absurd decimal (by decide)
  · rename_i same
    obtain ⟨rfl, _⟩ := List.cons.inj (List.cons.inj same).2
    exact absurd decimal (by decide)
  · rename_i same
    obtain rfl := (List.cons.inj same).2
    rw [numbered, Option.map_map]
    rfl
  · rename_i other
    exact absurd rfl (other _)

theorem reference?_hexadecimal {mark : Char} {digits : List Char} {number : Nat}
    (marked : mark = 'x' ∨ mark = 'X') (spelled : Spells 16 digits number) (rest : List Char) :
    reference? ('#' :: mark :: (digits ++ ';' :: rest)) =
      (scalar? number).map fun c => (c, digits.length + 3) := by
  have numbered := numbered?_of_spells spelled spelled.isHexDigit (by decide) rest
  rcases marked with rfl | rfl
  · show (numbered? 16 isHexDigit (digits ++ ';' :: rest)).map _ = _
    rw [numbered, Option.map_map]
    rfl
  · show (numbered? 16 isHexDigit (digits ++ ';' :: rest)).map _ = _
    rw [numbered, Option.map_map]
    rfl

/-- **What is written for a character behind a mark is read as a reference to it.** -/
theorem reference?_of_spelling {c : Char} {written : List Char}
    (spelled : CharSpelling c ('&' :: written)) (rest : List Char) :
    reference? (written ++ rest) = some (c, written.length) := by
  generalize marked : '&' :: written = spelling at spelled
  cases spelled with
  | literal _ notMark => exact absurd (List.cons.inj marked).1.symm notMark
  | quot =>
    obtain rfl : written = "quot;".toList := (List.cons.inj marked).2
    rfl
  | amp =>
    obtain rfl : written = "amp;".toList := (List.cons.inj marked).2
    rfl
  | lt =>
    obtain rfl : written = "lt;".toList := (List.cons.inj marked).2
    rfl
  | gt =>
    obtain rfl : written = "gt;".toList := (List.cons.inj marked).2
    rfl
  | apos =>
    obtain rfl : written = "apos;".toList := (List.cons.inj marked).2
    rfl
  | decimal spelled =>
    obtain rfl := (List.cons.inj marked).2
    simpa [scalar?_toNat] using reference?_decimal spelled rest
  | hexadecimal mark spelled =>
    obtain rfl := (List.cons.inj marked).2
    simpa [scalar?_toNat] using reference?_hexadecimal mark spelled rest

theorem unescape_marked {c : Char} {written : List Char}
    (spelled : CharSpelling c ('&' :: written)) (rest : List Char) :
    unescape ('&' :: (written ++ rest)) = c :: unescape rest := by
  rw [unescape_reference (reference?_of_spelling spelled rest), List.drop_left]

/-- **A written character is resolved to the character.** -/
theorem unescape_char {c : Char} {spelling : List Char} (spelled : CharSpelling c spelling)
    (rest : List Char) : unescape (spelling ++ rest) = c :: unescape rest := by
  cases spelled with
  | literal _ notMark => rw [List.singleton_append, unescape, if_neg notMark]
  | quot => exact unescape_marked .quot rest
  | amp => exact unescape_marked .amp rest
  | lt => exact unescape_marked .lt rest
  | gt => exact unescape_marked .gt rest
  | apos => exact unescape_marked .apos rest
  | decimal spelled => exact unescape_marked (.decimal spelled) rest
  | hexadecimal marked spelled => exact unescape_marked (.hexadecimal marked spelled) rest

/-- **Resolving the references of a written text gives the text.** -/
theorem unescape_of_spelling {text written : List Char} (spelled : TextSpelling text written) :
    unescape written = text := by
  induction spelled with
  | nil => rw [unescape]
  | cons first _ ih => rw [unescape_char first, ih]

/-- A written character is no quotation mark. -/
theorem unquoted_char {c : Char} {spelling : List Char} (spelled : CharSpelling c spelling) :
    '"' ∉ spelling := by
  cases spelled with
  | literal notQuote _ => exact fun member => notQuote (List.mem_singleton.mp member).symm
  | quot => decide
  | amp => decide
  | lt => decide
  | gt => decide
  | apos => decide
  | decimal spelled =>
    intro member
    have digit : '"' ∉ _ := spelled.not_mem (by decide)
    simp_all
  | hexadecimal marked spelled =>
    intro member
    have digit : '"' ∉ _ := spelled.not_mem (by decide)
    rcases marked with rfl | rfl
    · simp_all
    · simp_all

/-- A written text holds no quotation mark. -/
theorem unquoted_of_spelling {text written : List Char} (spelled : TextSpelling text written) :
    '"' ∉ written := by
  induction spelled with
  | nil => exact List.not_mem_nil
  | cons first _ ih =>
    intro member
    rcases List.mem_append.mp member with front | rest
    · exact unquoted_char first front
    · exact ih rest

/-! ### Integers -/

/-- Digits have no sign. -/
theorem splitSign_of_spells {base number : Nat} {digits : List Char}
    (spelled : Spells base digits number) : splitSign digits = (false, digits) := by
  obtain ⟨digit, digits, rfl⟩ := List.exists_cons_of_ne_nil spelled.ne_nil
  have valued := spelled.isHexDigit digit List.mem_cons_self
  unfold splitSign
  split
  · rename_i same
    obtain ⟨rfl, _⟩ := List.cons.inj same
    exact absurd valued (by decide)
  · rename_i same
    obtain ⟨rfl, _⟩ := List.cons.inj same
    exact absurd valued (by decide)
  · rfl

/-- Digits behind a sign are the number they spell, with the sign. -/
theorem readInteger?_of_splitSign {written digits : List Char} {negative : Bool} {number : Nat}
    (split : splitSign written = (negative, digits)) (spelled : Spells 10 digits number) :
    readInteger? written = some (if negative then -(number : Int) else number) := by
  have digitsOnly : (digits.isEmpty || !digits.all Char.isDigit) = false := by
    simpa [spelled.ne_nil] using spelled.isDigit
  unfold readInteger?
  rw [split]
  dsimp only
  rw [digitsOnly, spelled.numeral_eq]
  cases negative with
  | false => rfl
  | true => rfl

/-- **Reading a written integer gives the integer.** -/
theorem readInteger?_of_spelling {number : Int} {written : List Char}
    (spelled : IntegerSpelling number written) : readInteger? written = some number := by
  cases spelled with
  | unsigned spelled => exact readInteger?_of_splitSign (splitSign_of_spells spelled) spelled
  | plus spelled => exact readInteger?_of_splitSign rfl spelled
  | minus spelled => exact readInteger?_of_splitSign rfl spelled

theorem readInt64?_of_spelling {value : Int64} {written : List Char}
    (spelled : IntegerSpelling value.toInt written) : readInt64? written = some value := by
  unfold readInt64?
  rw [readInteger?_of_spelling spelled]
  dsimp only
  rw [if_pos ⟨Int64.minValue_le_toInt value, Int64.toInt_le value⟩, Int64.ofInt_toInt]

/-- A written integer holds digits and signs only. -/
theorem marks_of_spelling {number : Int} {written : List Char}
    (spelled : IntegerSpelling number written) :
    written ≠ [] ∧ ∀ c ∈ written, c.isDigit = true ∨ c = '+' ∨ c = '-' := by
  cases spelled with
  | unsigned spelled => exact ⟨spelled.ne_nil, fun c member => Or.inl (spelled.isDigit c member)⟩
  | plus spelled =>
    refine ⟨List.cons_ne_nil _ _, fun c member => ?_⟩
    rcases List.mem_cons.mp member with rfl | member
    · exact Or.inr (Or.inl rfl)
    · exact Or.inl (spelled.isDigit c member)
  | minus spelled =>
    refine ⟨List.cons_ne_nil _ _, fun c member => ?_⟩
    rcases List.mem_cons.mp member with rfl | member
    · exact Or.inr (Or.inr rfl)
    · exact Or.inl (spelled.isDigit c member)

/-- A written integer is the token of the integer, in the characters of a number. -/
theorem ofNumber_int {value : Int64} {written : List Char}
    (spelled : IntegerSpelling value.toInt written) :
    (∀ c ∈ written, beginsNumber c = true) ∧ Token.ofNumber written = .ok (.int value) := by
  obtain ⟨_, marks⟩ := marks_of_spelling spelled
  constructor
  · intro c member
    rcases marks c member with digit | rfl | rfl
    · simp [beginsNumber, digit]
    · rfl
    · rfl
  · have plain : looksReal written = false := by
      rw [looksReal, List.any_eq_false]
      intro c member
      rcases marks c member with digit | rfl | rfl
      · have range := (isDigit_iff c).mp digit
        rw [Bool.or_eq_true, Bool.or_eq_true, decide_eq_true_eq, decide_eq_true_eq,
          decide_eq_true_eq]
        rintro ((rfl | rfl) | rfl)
        · exact absurd range (by decide)
        · exact absurd range (by decide)
        · exact absurd range (by decide)
      · decide
      · decide
    unfold Token.ofNumber
    rw [plain, readInt64?_of_spelling spelled]
    rfl

/-! ### Reals -/

/-- An exponent stands behind a digit or a point. -/
theorem read?_exponent (more : List Char) :
    Binary64.read? ('e' :: more) = none ∧ Binary64.read? ('E' :: more) = none := ⟨rfl, rfl⟩

/-- A written real is the token of the real, in the characters of a number. -/
theorem ofNumber_real {value : Binary64} {written : List Char}
    (marks : ∀ c ∈ written, c.isDigit = true ∨ c ∈ ['+', '-', '.', 'e', 'E'])
    (looks : ∃ c ∈ written, c ∈ ['.', 'e', 'E'])
    (read : Binary64.read? written = some value) :
    (∀ c ∈ written.head?, beginsNumber c = true) ∧ (∀ c ∈ written, continuesNumber c = true) ∧
      Token.ofNumber written = .ok (.real value) := by
  refine ⟨?_, ?_, ?_⟩
  · intro c first
    obtain ⟨more, rfl⟩ : ∃ more, written = c :: more := by
      cases written with
      | nil => cases first
      | cons d more =>
        cases first
        exact ⟨more, rfl⟩
    rcases marks c List.mem_cons_self with digit | mark
    · simp [beginsNumber, digit]
    · simp only [List.mem_cons, List.not_mem_nil, or_false] at mark
      rcases mark with rfl | rfl | rfl | rfl | rfl
      · rfl
      · rfl
      · rfl
      · rw [(read?_exponent more).1] at read
        cases read
      · rw [(read?_exponent more).2] at read
        cases read
  · intro c member
    rcases marks c member with digit | mark
    · simp [continuesNumber, beginsNumber, digit]
    · simp only [List.mem_cons, List.not_mem_nil, or_false] at mark
      rcases mark with rfl | rfl | rfl | rfl | rfl <;> rfl
  · have real : looksReal written = true := by
      obtain ⟨c, member, mark⟩ := looks
      rw [looksReal, List.any_eq_true]
      refine ⟨c, member, ?_⟩
      simp only [List.mem_cons, List.not_mem_nil, or_false] at mark
      rcases mark with rfl | rfl | rfl <;> rfl
    unfold Token.ofNumber
    rw [if_pos real, read]

/-! ### Tokens -/

/-- A word goes on through such characters. -/
def continuesWord (c : Char) : Bool := continuesKey c || continuesNumber c

/-- What may stand behind a token: after a word, no character that would go on with it. -/
def Token.EndsBefore (token : Token) (after : List Char) : Prop :=
  token.isWord = true → ∀ c ∈ after.head?, continuesWord c = false

theorem toNat_of_continuesWord {c : Char} (continues : continuesWord c = true) :
    43 ≤ c.toNat ∧ c.toNat ≤ 122 := by
  simp only [continuesWord, continuesKey, continuesNumber, Bool.or_eq_true, decide_eq_true_eq,
    Char.isAlphanum, isAlpha_iff, isDigit_iff] at continues
  rcases continues with ((letter | digit) | rfl) | (number | rfl) | rfl
  · omega
  · omega
  · decide
  · have range := toNat_of_beginsNumber number
    omega
  · decide
  · decide

/-- No word goes on through white space. -/
theorem continuesWord_of_isBlank {c : Char} (blank : isBlank c = true) :
    continuesWord c = false := by
  rw [Bool.eq_false_iff]
  intro continues
  have range := toNat_of_continuesWord continues
  have bounds := bounds_of_isBlank blank
  omega

theorem continuesKey_of_continuesWord {c : Char} (stops : continuesWord c = false) :
    continuesKey c = false := (Bool.or_eq_false_iff.mp stops).1

theorem continuesNumber_of_continuesWord {c : Char} (stops : continuesWord c = false) :
    continuesNumber c = false := (Bool.or_eq_false_iff.mp stops).2

/-- The characters begin no gap, and the lexer takes them for the token. -/
def Token.IsReadFrom (token : Token) (written : List Char) : Prop :=
  ∃ c more, written = c :: more ∧ c ≠ '#' ∧ isBlank c = false ∧
    ∀ line after, token.EndsBefore after →
      ∃ ended, Reads line c (more ++ after) ⟨token, ended, after⟩

/-- A visible ASCII character is not blank. -/
theorem not_isBlank {c : Char} (low : 33 ≤ c.toNat) (high : c.toNat ≤ 132) : isBlank c = false := by
  rw [Bool.eq_false_iff]
  intro blank
  have bounds := bounds_of_isBlank blank
  omega

theorem isReadFrom_number {token : Token} {written : List Char} (nonempty : written ≠ [])
    (begins : ∀ c ∈ written.head?, beginsNumber c = true)
    (inside : ∀ c ∈ written, continuesNumber c = true)
    (converted : Token.ofNumber written = .ok token) : token.IsReadFrom written := by
  obtain ⟨c, more, rfl⟩ := List.exists_cons_of_ne_nil nonempty
  have first := begins c rfl
  have range := toNat_of_beginsNumber first
  refine ⟨c, more, rfl, ?_, not_isBlank (by omega) (by omega), fun line after ends => ?_⟩
  · rintro rfl
    exact absurd first (by decide)
  · have stops : ∀ d ∈ after.head?, continuesNumber d = false := fun d next =>
      continuesNumber_of_continuesWord (ends (isWord_of_ofNumber converted) d next)
    have longest : Run continuesNumber more after :=
      ⟨fun d member => inside d (List.mem_cons_of_mem _ member), stops⟩
    exact ⟨line, .number first longest converted⟩

theorem isReadFrom_key {c : Char} {more : List Char} (first : c.isAlpha = true ∨ c = '_')
    (others : ∀ d ∈ more, d.isAlphanum = true ∨ d = '_') :
    (Token.key (String.ofList (c :: more))).IsReadFrom (c :: more) := by
  have begins : beginsKey c = true := by
    rw [beginsKey, Bool.or_eq_true, decide_eq_true_eq]
    exact first
  have range := toNat_of_beginsKey begins
  refine ⟨c, more, rfl, ?_, not_isBlank (by omega) (by omega), fun line after ends => ?_⟩
  · rintro rfl
    exact absurd begins (by decide)
  · have inside : ∀ d ∈ more, continuesKey d = true := by
      intro d member
      rw [continuesKey, Bool.or_eq_true, decide_eq_true_eq]
      exact others d member
    have stops : ∀ d ∈ after.head?, continuesKey d = false := fun d next =>
      continuesKey_of_continuesWord (ends rfl d next)
    exact ⟨line, .key begins ⟨inside, stops⟩⟩

theorem isReadFrom_text {value : String} {written : List Char}
    (spelled : TextSpelling value.toList written) :
    (Token.text value).IsReadFrom ('"' :: (written ++ ['"'])) := by
  refine ⟨'"', written ++ ['"'], rfl, by decide, by decide, fun line after _ => ?_⟩
  have reads : Reads line '"' (written ++ '"' :: after) _ :=
    .text written after (unquoted_of_spelling spelled)
  rw [unescape_of_spelling spelled, String.ofList_toList] at reads
  rw [List.append_assoc, List.singleton_append]
  exact ⟨_, reads⟩

/-- **The lexer takes a spelling of a token for the token.** -/
theorem Token.Spelling.isReadFrom {token : Token} {written : List Char}
    (spelled : token.Spelling written) : token.IsReadFrom written := by
  cases spelled with
  | key first others => exact isReadFrom_key first others
  | int spelled =>
    obtain ⟨marks, converted⟩ := ofNumber_int spelled
    have begins : ∀ c ∈ written.head?, beginsNumber c = true := fun c first =>
      marks c (List.mem_of_mem_head? first)
    have inside : ∀ c ∈ written, continuesNumber c = true := fun c member => by
      simp [continuesNumber, marks c member]
    exact isReadFrom_number (marks_of_spelling spelled).1 begins inside converted
  | real marks looks read =>
    obtain ⟨begins, inside, converted⟩ := ofNumber_real marks looks read
    obtain ⟨c, member, _⟩ := looks
    exact isReadFrom_number (List.ne_nil_of_mem member) begins inside converted
  | text spelled => exact isReadFrom_text spelled
  | opening =>
    exact ⟨'[', [], rfl, by decide, by decide, fun line after _ => ⟨line, .opening after⟩⟩
  | closing =>
    exact ⟨']', [], rfl, by decide, by decide, fun line after _ => ⟨line, .closing after⟩⟩

end ApkFeatures.Gml
