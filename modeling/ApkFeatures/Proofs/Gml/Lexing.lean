/-
**What a token is.**

`Reads` says which token stands at the beginning of a text, as a rule for each kind: a number and a
key are as long as they can be, a text ends at its first quotation mark.

* `Lexeme.read_eq_ok_iff` — the lexer reads exactly the tokens that `Reads` allows.
* `next?_append` — a token does not depend on what stands behind it, unless it is a word that the
  source ends in and that goes on there.
* `Lexes.append_closing`, `Lexes.compare` — the same for the tokens up to a closing bracket; and of
  two readings of one source, one goes on where the other stops.
* `Lexes.bracket_of_closing` — where the closing bracket of these tokens stands in the source.
-/
import ApkFeatures.Proofs.Gml.Reading
import ApkFeatures.Proofs.Text.Numeral

namespace ApkFeatures.Gml

/-! ### Longest runs -/

/-- The longest beginning of a text whose characters have a property, and what follows it. -/
structure Run (p : Char → Bool) (run after : List Char) : Prop where
  inside : ∀ c ∈ run, p c = true
  stops : ∀ c ∈ after.head?, p c = false

namespace Run

variable {p : Char → Bool} {run after : List Char}

theorem takeWhile_eq (longest : Run p run after) : (run ++ after).takeWhile p = run := by
  rw [List.takeWhile_append_of_pos longest.inside]
  cases after with
  | nil => simp
  | cons c after => simp [longest.stops c rfl]

theorem dropWhile_eq (longest : Run p run after) : (run ++ after).dropWhile p = after := by
  rw [List.dropWhile_append_of_pos longest.inside]
  cases after with
  | nil => rfl
  | cons c after => simp [longest.stops c rfl]

/-- Every text begins with a longest run. -/
theorem exists_append (p : Char → Bool) (text : List Char) :
    ∃ run after, text = run ++ after ∧ Run p run after := by
  refine ⟨text.takeWhile p, text.dropWhile p, List.takeWhile_append_dropWhile.symm, ?_, ?_⟩
  · exact List.all_eq_true.mp List.all_takeWhile
  · intro c first
    have stopped := List.head?_dropWhile_not p text
    rw [Option.mem_def.mp first] at stopped
    exact stopped

/-- A run is not made longer by what stands behind it, unless the source ends in the run and it goes
on there. -/
theorem append (longest : Run p run after) {tail : List Char}
    (stops : after = [] → ∀ c ∈ tail.head?, p c = false) : Run p run (after ++ tail) where
  inside := longest.inside
  stops := by
    cases after with
    | nil => exact stops rfl
    | cons c after => exact longest.stops

end Run

/-! ### Tokens -/

/-- The token that begins with a character, and what follows it. -/
inductive Reads (line : Nat) : Char → List Char → Lexeme → Prop where
  | opening (after : List Char) : Reads line '[' after ⟨.opening, line, after⟩
  | closing (after : List Char) : Reads line ']' after ⟨.closing, line, after⟩
  | text (text after : List Char) (unquoted : '"' ∉ text) :
      Reads line '"' (text ++ '"' :: after)
        ⟨.text (String.ofList (unescape text)), line + text.count '\n', after⟩
  | number {c : Char} {more after : List Char} {token : Token} (begins : beginsNumber c = true)
      (longest : Run continuesNumber more after) (read : Token.ofNumber (c :: more) = .ok token) :
      Reads line c (more ++ after) ⟨token, line, after⟩
  | key {c : Char} {more after : List Char} (begins : beginsKey c = true)
      (longest : Run continuesKey more after) :
      Reads line c (more ++ after) ⟨.key (String.ofList (c :: more)), line, after⟩

/-- A key begins with a letter or the underscore. -/
theorem toNat_of_beginsKey {c : Char} (begins : beginsKey c = true) :
    c.toNat = 95 ∨ (65 ≤ c.toNat ∧ c.toNat ≤ 90) ∨ (97 ≤ c.toNat ∧ c.toNat ≤ 122) := by
  simp only [beginsKey, Bool.or_eq_true, decide_eq_true_eq, Text.isAlpha_iff] at begins
  rcases begins with letter | rfl
  · exact Or.inr letter
  · exact Or.inl rfl

/-- A number begins with a digit, a sign or a point. -/
theorem toNat_of_beginsNumber {c : Char} (begins : beginsNumber c = true) :
    c.toNat = 43 ∨ c.toNat = 45 ∨ c.toNat = 46 ∨ (48 ≤ c.toNat ∧ c.toNat ≤ 57) := by
  simp only [beginsNumber, Bool.or_eq_true, decide_eq_true_eq, Text.isDigit_iff] at begins
  rcases begins with ((digit | rfl) | rfl) | rfl
  · omega
  · decide
  · decide
  · decide

/-- A number begins with none of the other marks. -/
theorem beginsNumber_ne {c : Char} (begins : beginsNumber c = true) :
    c ≠ '[' ∧ c ≠ ']' ∧ c ≠ '"' := by
  refine ⟨?_, ?_, ?_⟩ <;> rintro rfl <;> exact absurd begins (by decide)

/-- A key begins with none of the other marks and with nothing that begins a number. -/
theorem beginsKey_ne {c : Char} (begins : beginsKey c = true) :
    c ≠ '[' ∧ c ≠ ']' ∧ c ≠ '"' ∧ beginsNumber c = false := by
  refine ⟨?_, ?_, ?_, ?_⟩
  · rintro rfl
    exact absurd begins (by decide)
  · rintro rfl
    exact absurd begins (by decide)
  · rintro rfl
    exact absurd begins (by decide)
  · rw [Bool.eq_false_iff]
    intro number
    have letter := toNat_of_beginsKey begins
    have digit := toNat_of_beginsNumber number
    omega

/-- A text ends at its first quotation mark. -/
theorem run_unquoted {text : List Char} (unquoted : '"' ∉ text) (after : List Char) :
    Run (· ≠ '"') text ('"' :: after) where
  inside := by
    intro c member
    rw [decide_eq_true_eq]
    rintro rfl
    exact unquoted member
  stops := by
    intro c first
    cases first
    rfl

namespace Lexeme

theorem reads_of_read {line : Nat} {c : Char} {rest : List Char} {lexeme : Lexeme}
    (read : Lexeme.read line c rest = .ok lexeme) : Reads line c rest lexeme := by
  unfold Lexeme.read at read
  by_cases opening : c = '['
  · rw [if_pos opening] at read
    cases read
    rw [opening]
    exact .opening rest
  rw [if_neg opening] at read
  by_cases closing : c = ']'
  · rw [if_pos closing] at read
    cases read
    rw [closing]
    exact .closing rest
  rw [if_neg closing] at read
  by_cases quoted : c = '"'
  · obtain ⟨text, after, rfl, longest⟩ := Run.exists_append (· ≠ '"') rest
    rw [if_pos quoted] at read
    dsimp only at read
    rw [longest.dropWhile_eq, longest.takeWhile_eq] at read
    cases after with
    | nil => cases read
    | cons mark after =>
      cases read
      obtain rfl : mark = '"' := by simpa using longest.stops mark rfl
      rw [quoted]
      exact .text text after fun member => by simpa using longest.inside _ member
  rw [if_neg quoted] at read
  by_cases number : beginsNumber c = true
  · obtain ⟨more, after, rfl, longest⟩ := Run.exists_append continuesNumber rest
    rw [if_pos number, longest.dropWhile_eq, longest.takeWhile_eq] at read
    split at read
    · rename_i token converted
      cases read
      exact .number number longest converted
    · cases read
  rw [if_neg number] at read
  by_cases key : beginsKey c = true
  · obtain ⟨more, after, rfl, longest⟩ := Run.exists_append continuesKey rest
    rw [if_pos key, longest.dropWhile_eq, longest.takeWhile_eq] at read
    cases read
    exact .key key longest
  · rw [if_neg key] at read
    cases read

theorem read_of_reads {line : Nat} {c : Char} {rest : List Char} {lexeme : Lexeme}
    (reads : Reads line c rest lexeme) : Lexeme.read line c rest = .ok lexeme := by
  unfold Lexeme.read
  cases reads with
  | opening => rw [if_pos rfl]
  | closing => rw [if_neg (by decide), if_pos rfl]
  | text text after unquoted =>
    have longest := run_unquoted unquoted after
    rw [if_neg (by decide), if_neg (by decide), if_pos rfl]
    dsimp only
    rw [longest.dropWhile_eq, longest.takeWhile_eq]
  | number begins longest number =>
    obtain ⟨notOpening, notClosing, notQuoted⟩ := beginsNumber_ne begins
    rw [if_neg notOpening, if_neg notClosing, if_neg notQuoted, if_pos begins,
      longest.takeWhile_eq, number, longest.dropWhile_eq]
  | key begins longest =>
    obtain ⟨notOpening, notClosing, notQuoted, notNumber⟩ := beginsKey_ne begins
    rw [if_neg notOpening, if_neg notClosing, if_neg notQuoted, if_neg (by rw [notNumber]; decide),
      if_pos begins, longest.takeWhile_eq, longest.dropWhile_eq]

/-- **The lexer reads exactly the tokens.** -/
theorem read_eq_ok_iff {line : Nat} {c : Char} {rest : List Char} {lexeme : Lexeme} :
    Lexeme.read line c rest = .ok lexeme ↔ Reads line c rest lexeme :=
  ⟨reads_of_read, read_of_reads⟩

end Lexeme

/-! ### What stands behind a token -/

/-- The token is a number or a key, which goes on as long as the characters do. -/
def Token.isWord : Token → Bool
  | .key _ | .int _ | .real _ => true
  | .text _ | .opening | .closing => false

theorem isWord_of_ofNumber {text : List Char} {token : Token}
    (converted : Token.ofNumber text = .ok token) : token.isWord = true := by
  unfold Token.ofNumber at converted
  split at converted
  · split at converted
    · cases converted
      rfl
    · cases converted
  · split at converted
    · cases converted
      rfl
    · cases converted

/-- No word goes on with the text. -/
def EndsWords (text : List Char) : Prop :=
  ∀ c ∈ text.head?, continuesKey c = false ∧ continuesNumber c = false

/-- **A token is the same in a longer source**, unless it is a word that the source ends in and that
goes on there. -/
theorem Reads.append {line : Nat} {c : Char} {rest : List Char} {lexeme : Lexeme}
    (reads : Reads line c rest lexeme) (tail : List Char)
    (complete : lexeme.token.isWord = true → lexeme.rest = [] → EndsWords tail) :
    Reads line c (rest ++ tail) ⟨lexeme.token, lexeme.line, lexeme.rest ++ tail⟩ := by
  cases reads with
  | opening => exact .opening _
  | closing => exact .closing _
  | text text after unquoted =>
    rw [List.append_assoc, List.cons_append]
    exact .text text (after ++ tail) unquoted
  | number begins longest converted =>
    rw [List.append_assoc]
    exact .number begins (longest.append fun ended d first =>
      (complete (isWord_of_ofNumber converted) ended d first).2) converted
  | key begins longest =>
    rw [List.append_assoc]
    exact .key begins (longest.append fun ended d first => (complete rfl ended d first).1)

/-- A gap is the same in a longer source, if a token ends it. -/
theorem skipGap_append {inComment : Bool} {line reached : Nat} {source rest : List Char} {c : Char}
    (skipped : skipGap inComment line source = (reached, c :: rest)) (tail : List Char) :
    skipGap inComment line (source ++ tail) = (reached, c :: (rest ++ tail)) := by
  induction source generalizing inComment line with
  | nil => cases skipped
  | cons d source ih =>
    rw [List.cons_append]
    unfold skipGap at skipped ⊢
    split
    · rename_i newline
      rw [if_pos newline] at skipped
      exact ih skipped
    · rename_i newline
      rw [if_neg newline] at skipped
      split
      · rename_i comment
        rw [if_pos comment] at skipped
        exact ih skipped
      · rename_i comment
        rw [if_neg comment] at skipped
        split
        · rename_i mark
          rw [if_pos mark] at skipped
          exact ih skipped
        · rename_i mark
          rw [if_neg mark] at skipped
          split
          · rename_i blank
            rw [if_pos blank] at skipped
            exact ih skipped
          · rename_i blank
            rw [if_neg blank] at skipped
            cases skipped
            rfl

/-- The next token is the one that a gap ends in. -/
theorem next?_eq_some_iff {line reached : Nat} {source : List Char} {lexeme : Lexeme} :
    next? line source = .ok (reached, some lexeme) ↔
      ∃ began c rest, skipGap false line source = (began, c :: rest) ∧
        Reads began c rest lexeme ∧ lexeme.line = reached := by
  unfold next?
  constructor
  · intro found
    split at found
    · cases found
    · rename_i began c rest skipped
      refine ⟨began, c, rest, skipped, ?_⟩
      cases read : Lexeme.read began c rest with
      | error fault =>
        rw [read] at found
        cases found
      | ok other =>
        rw [read] at found
        cases found
        exact ⟨Lexeme.read_eq_ok_iff.mp read, rfl⟩
  · rintro ⟨began, c, rest, skipped, reads, rfl⟩
    rw [skipped]
    dsimp only
    rw [Lexeme.read_eq_ok_iff.mpr reads]
    rfl

/-- **The next token is the same in a longer source**, unless it is a word that the source ends in
and that goes on there. -/
theorem next?_append {line reached : Nat} {source : List Char} {lexeme : Lexeme}
    (found : next? line source = .ok (reached, some lexeme)) (tail : List Char)
    (complete : lexeme.token.isWord = true → lexeme.rest = [] → EndsWords tail) :
    next? line (source ++ tail) =
      .ok (reached, some ⟨lexeme.token, lexeme.line, lexeme.rest ++ tail⟩) := by
  obtain ⟨began, c, rest, skipped, reads, same⟩ := next?_eq_some_iff.mp found
  exact next?_eq_some_iff.mpr
    ⟨began, c, rest ++ tail, skipGap_append skipped tail, reads.append tail complete, same⟩

/-- What follows a gap is the end of what it begins. -/
theorem skipGap_suffix (inComment : Bool) (line : Nat) (source : List Char) :
    (skipGap inComment line source).2 <:+ source := by
  induction source generalizing inComment line with
  | nil => exact List.suffix_refl _
  | cons c rest ih =>
    unfold skipGap
    split
    · exact (ih _ _).trans (List.suffix_cons _ _)
    · split
      · exact (ih _ _).trans (List.suffix_cons _ _)
      · split
        · exact (ih _ _).trans (List.suffix_cons _ _)
        · split
          · exact (ih _ _).trans (List.suffix_cons _ _)
          · exact List.suffix_refl _

/-- What follows a token is the end of what it begins. -/
theorem next?_suffix {line reached : Nat} {source : List Char} {lexeme : Lexeme}
    (found : next? line source = .ok (reached, some lexeme)) : lexeme.rest <:+ source := by
  obtain ⟨began, c, rest, skipped, reads, _⟩ := next?_eq_some_iff.mp found
  have gap := skipGap_suffix false line source
  rw [skipped] at gap
  refine List.IsSuffix.trans ?_ gap
  cases reads with
  | opening => exact List.suffix_cons _ _
  | closing => exact List.suffix_cons _ _
  | text text after unquoted => exact ⟨'"' :: text ++ ['"'], by simp⟩
  | @number _ more => exact List.suffix_append (c :: more) _
  | @key _ more => exact List.suffix_append (c :: more) _

/-- Nothing is left of an empty source. -/
theorem next?_nil (line : Nat) : next? line [] = .ok (line, none) := rfl

namespace Lexes

/-- The first of several tokens. -/
theorem next {line last : Nat} {source rest : List Char} {token : Token} {tokens : List Token}
    (lexes : Lexes line source (token :: tokens) last rest) :
    ∃ reached lexeme, next? line source = .ok (reached, some lexeme) ∧ lexeme.token = token ∧
      Lexes reached lexeme.rest tokens last rest := by
  cases lexes with
  | token found more => exact ⟨_, _, found, rfl, more⟩

theorem cons {line reached ended last : Nat} {source after rest : List Char} {token : Token}
    {tokens : List Token} (found : next? line source = .ok (reached, some ⟨token, ended, after⟩))
    (more : Lexes reached after tokens last rest) :
    Lexes line source (token :: tokens) last rest :=
  .token found more

/-- **The tokens up to a closing bracket are the same in a longer source.** -/
theorem append_closing {line last : Nat} {source rest : List Char} (tokens : List Token)
    (lexes : Lexes line source (tokens ++ [.closing]) last rest) (tail : List Char) :
    Lexes line (source ++ tail) (tokens ++ [.closing]) last (rest ++ tail) := by
  induction tokens generalizing line source with
  | nil =>
    obtain ⟨reached, lexeme, found, closing, more⟩ := lexes.next
    cases more with
    | done =>
      have longer := next?_append found tail fun word => by rw [closing] at word; cases word
      rw [List.nil_append, ← closing]
      exact cons longer (.done _ _)
  | cons token tokens ih =>
    rw [List.cons_append] at lexes ⊢
    obtain ⟨reached, lexeme, found, rfl, more⟩ := lexes.next
    -- another token follows, so this one does not end the source
    have follows : lexeme.rest ≠ [] := by
      intro nothing
      obtain ⟨other, others, same⟩ : ∃ other others, tokens ++ [Token.closing] = other :: others :=
        List.exists_cons_of_ne_nil (List.append_ne_nil_of_right_ne_nil _ (List.cons_ne_nil _ _))
      rw [nothing, same] at more
      obtain ⟨_, _, next, _, _⟩ := more.next
      rw [next?_nil] at next
      cases next
    have longer := next?_append found tail fun _ nothing => absurd nothing follows
    exact cons longer (ih more)

/-- What follows tokens is the end of what they begin. -/
theorem suffix {line last : Nat} {source rest : List Char} {tokens : List Token}
    (lexes : Lexes line source tokens last rest) : rest <:+ source := by
  induction lexes with
  | done => exact List.suffix_refl _
  | token found _ ih => exact ih.trans (next?_suffix found)

/-- Tokens are read one part after the other. -/
theorem split {line last : Nat} {source rest : List Char} (first : List Token)
    {second : List Token} (lexes : Lexes line source (first ++ second) last rest) :
    ∃ reached between, Lexes line source first reached between ∧
      Lexes reached between second last rest := by
  induction first generalizing line source with
  | nil => exact ⟨line, source, .done _ _, lexes⟩
  | cons token first ih =>
    rw [List.cons_append] at lexes
    obtain ⟨reached, lexeme, found, rfl, more⟩ := lexes.next
    obtain ⟨ended, between, left, right⟩ := ih more
    exact ⟨ended, between, .token found left, right⟩

/-- **A closing bracket stands right before what follows it.** -/
theorem bracket_of_closing {line last : Nat} {source rest : List Char} (tokens : List Token)
    (lexes : Lexes line source (tokens ++ [.closing]) last rest) :
    ∃ inside, source = inside ++ ']' :: rest := by
  obtain ⟨reached, between, before, closing⟩ := lexes.split
  obtain ⟨_, lexeme, found, isClosing, more⟩ := closing.next
  obtain ⟨began, c, follows, skipped, reads, _⟩ := next?_eq_some_iff.mp found
  cases more with
  | done =>
    cases reads with
    | closing =>
      obtain ⟨gap, tail⟩ := skipGap_suffix false reached between
      obtain ⟨outer, whole⟩ := before.suffix
      rw [skipped] at tail
      refine ⟨outer ++ gap, ?_⟩
      rw [← whole, ← tail, List.append_assoc]
    | opening => cases isClosing
    | text => cases isClosing
    | number begins longest converted =>
      cases isClosing
      exact absurd (isWord_of_ofNumber converted) Bool.false_ne_true
    | key => cases isClosing

/-- **Of two readings of a source, the one that leaves less goes on where the other stops.** -/
theorem compare {line last last' : Nat} {source rest rest' : List Char}
    {tokens tokens' : List Token} (lexes : Lexes line source tokens last rest)
    (lexes' : Lexes line source tokens' last' rest') (shorter : rest'.length ≤ rest.length) :
    ∃ more, tokens' = tokens ++ more ∧ Lexes last rest more last' rest' := by
  induction lexes generalizing tokens' with
  | done => exact ⟨tokens', rfl, lexes'⟩
  | token found more ih =>
    cases lexes' with
    | done =>
      have less := next?_length_lt found
      have left := more.suffix.length_le
      omega
    | token found' more' =>
      rw [found] at found'
      cases found'
      obtain ⟨others, rfl, follows⟩ := ih more' shorter
      exact ⟨others, rfl, follows⟩

end Lexes

/-- **Tokens at the beginning of a source are the first of its tokens.** -/
theorem HasTokens.begins {source rest : List Char} {tokens first : List Token} {line : Nat}
    (written : HasTokens source tokens) (lexes : Lexes 1 source first line rest) :
    first <+: tokens := by
  obtain ⟨last, left, reached, all, ended⟩ := written
  rcases Nat.le_total left.length rest.length with shorter | longer
  · obtain ⟨more, rfl, _⟩ := lexes.compare all shorter
    exact List.prefix_append _ _
  · obtain ⟨more, rfl, follows⟩ := all.compare lexes longer
    cases follows with
    | done => exact ⟨[], by rw [List.append_nil, List.append_nil]⟩
    | token found _ =>
      rw [ended] at found
      cases found

end ApkFeatures.Gml
