/-
**Lines of tokens.**

Newlines are passed in gaps, at the end of comments and inside texts, and the lexer counts them all:
behind every token its line is one more than the number of newlines up to there. A token that is
malformed is reported on the line of its place, which is where it begins or, for a number, where it
ends.

* `exists_skipsTo` — what a gap passes is white space and comments; what it stops at begins none.
* `exists_reads_or_malformed` — where no gap begins there is a token, or a malformed one.
* `next?_eq_none_iff`, `next?_eq_error_iff` — when no token is left, and when one is malformed.
* `Lexes.advances` — the line behind the tokens of a source.
-/
import ApkFeatures.Proofs.Gml.Rendering

namespace ApkFeatures.Gml

open ApkFeatures.Text

/-! ### Counting newlines -/

/-- **The line has grown by the newlines that were passed** between two places of a source. -/
def Advances (line : Nat) (source : List Char) (reached : Nat) (rest : List Char) : Prop :=
  ∃ passed, source = passed ++ rest ∧ reached = line + passed.count '\n'

namespace Advances

variable {line between reached : Nat} {source middle rest : List Char}

theorem refl (line : Nat) (source : List Char) : Advances line source line source :=
  ⟨[], rfl, rfl⟩

theorem trans (first : Advances line source between middle)
    (second : Advances between middle reached rest) : Advances line source reached rest := by
  obtain ⟨passed, rfl, rfl⟩ := first
  obtain ⟨more, rfl, rfl⟩ := second
  exact ⟨passed ++ more, (List.append_assoc _ _ _).symm, by rw [List.count_append, Nat.add_assoc]⟩

/-- The line tells how many newlines stand before the rest. -/
theorem line_eq {before : List Char} (advances : Advances line source reached rest)
    (split : source = before ++ rest) : reached = line + before.count '\n' := by
  obtain ⟨passed, same, rfl⟩ := advances
  rw [split] at same
  rw [List.append_cancel_right same]

end Advances

/-! ### Gaps -/

/-- What is skipped, behind the mark of the comment in which it begins. -/
def opened (inComment : Bool) (skipped : List Char) : List Char :=
  if inComment then '#' :: skipped else skipped

/-- **What `skipGap` passes is a gap**, and what it stops at begins none. At the end of the source a
comment may lack its newline. -/
def SkipsTo (inComment : Bool) (passed : List Char) : List Char → Prop
  | [] => Gap (opened inComment (passed ++ ['\n']))
  | c :: _ => Gap (opened inComment passed) ∧ isBlank c = false ∧ c ≠ '#'

/-- One more character is skipped. -/
theorem SkipsTo.cons {inComment next : Bool} {c : Char} {passed rest : List Char}
    (skips : SkipsTo next passed rest)
    (step : ∀ gap, Gap (opened next gap) → Gap (opened inComment (c :: gap))) :
    SkipsTo inComment (c :: passed) rest := by
  cases rest with
  | nil => exact step _ skips
  | cons d rest => exact ⟨step _ skips.1, skips.2⟩

/-- A newline ends a comment. -/
theorem gap_newline (inComment : Bool) {gap : List Char} (isGap : Gap gap) :
    Gap (opened inComment ('\n' :: gap)) := by
  cases inComment with
  | false => exact .blank (by decide) isGap
  | true => exact @Gap.comment [] gap List.not_mem_nil isGap

/-- A comment goes on through every other character. -/
theorem gap_comment_cons {c : Char} {gap : List Char} (notNewline : c ≠ '\n')
    (isGap : Gap ('#' :: gap)) : Gap ('#' :: c :: gap) := by
  cases isGap with
  | blank blank _ => exact absurd blank (by decide)
  | @comment body gap line more =>
    refine @Gap.comment (c :: body) gap (fun member => ?_) more
    rcases List.mem_cons.mp member with same | member
    · exact notNewline same.symm
    · exact line member

/-- **A gap is skipped to its end**, and its newlines are counted. -/
theorem exists_skipsTo {inComment : Bool} {line reached : Nat} {source rest : List Char}
    (skipped : skipGap inComment line source = (reached, rest)) :
    ∃ passed, source = passed ++ rest ∧ reached = line + passed.count '\n' ∧
      SkipsTo inComment passed rest := by
  induction source generalizing inComment line with
  | nil =>
    cases skipped
    exact ⟨[], rfl, rfl, gap_newline inComment .nil⟩
  | cons c source ih =>
    unfold skipGap at skipped
    by_cases newline : c = '\n'
    · rw [if_pos newline] at skipped
      obtain ⟨passed, rfl, rfl, skips⟩ := ih skipped
      subst newline
      refine ⟨'\n' :: passed, rfl, ?_, skips.cons fun gap isGap => gap_newline inComment isGap⟩
      rw [List.count_cons_self]
      omega
    rw [if_neg newline] at skipped
    -- no other character changes the line
    have counted : ∀ passed : List Char, (c :: passed).count '\n' = passed.count '\n' :=
      fun passed => List.count_cons_of_ne newline
    by_cases comment : inComment = true
    · rw [if_pos comment] at skipped
      obtain ⟨passed, rfl, rfl, skips⟩ := ih skipped
      subst comment
      refine ⟨c :: passed, rfl, by rw [counted], skips.cons fun gap isGap => ?_⟩
      exact gap_comment_cons newline isGap
    rw [if_neg comment] at skipped
    obtain rfl := Bool.eq_false_iff.mpr comment
    by_cases mark : c = '#'
    · rw [if_pos mark] at skipped
      obtain ⟨passed, rfl, rfl, skips⟩ := ih skipped
      subst mark
      exact ⟨'#' :: passed, rfl, by rw [counted], skips.cons fun gap isGap => isGap⟩
    rw [if_neg mark] at skipped
    by_cases blank : isBlank c = true
    · rw [if_pos blank] at skipped
      obtain ⟨passed, rfl, rfl, skips⟩ := ih skipped
      exact ⟨c :: passed, rfl, by rw [counted], skips.cons fun gap isGap => .blank blank isGap⟩
    · rw [if_neg blank] at skipped
      cases skipped
      exact ⟨[], rfl, rfl, .nil, Bool.eq_false_iff.mpr blank, mark⟩

/-- Nothing is skipped where no gap begins. -/
theorem skipGap_of_not_gap {c : Char} (notBlank : isBlank c = false) (notMark : c ≠ '#')
    (line : Nat) (rest : List Char) : skipGap false line (c :: rest) = (line, c :: rest) := by
  have notNewline : c ≠ '\n' := by
    rintro rfl
    exact absurd notBlank (by decide)
  rw [skipGap, if_neg notNewline, if_neg Bool.false_ne_true, if_neg notMark, notBlank,
    if_neg Bool.false_ne_true]

/-- **No token is left if only a gap is**; its last comment may lack a newline. -/
theorem next?_eq_none_iff {line reached : Nat} {source : List Char} :
    next? line source = .ok (reached, none) ↔
      Gap (source ++ ['\n']) ∧ reached = line + source.count '\n' := by
  unfold next?
  constructor
  · intro ended
    split at ended
    · rename_i last skipped
      cases ended
      obtain ⟨passed, rfl, rfl, skips⟩ := exists_skipsTo skipped
      rw [List.append_nil]
      exact ⟨skips, rfl⟩
    · rename_i began c rest skipped
      cases read : Lexeme.read began c rest with
      | error fault =>
        rw [read] at ended
        cases ended
      | ok lexeme =>
        rw [read] at ended
        cases ended
  · rintro ⟨isGap, rfl⟩
    cases skipped : skipGap false line source with
    | mk last rest =>
      obtain ⟨passed, rfl, rfl, skips⟩ := exists_skipsTo skipped
      cases rest with
      | nil => rw [List.append_nil]
      | cons c rest =>
        -- with the newline behind it the whole source is a gap, so nothing stops before its end
        have stopped := skipGap_append skipped ['\n']
        have whole := skipGap_gap isGap line []
        rw [List.append_nil, stopped] at whole
        exact absurd (Prod.mk.inj whole).2 (List.cons_ne_nil _ _)

/-! ### Tokens -/

/-- What begins a token. -/
def beginsToken (c : Char) : Bool :=
  c = '[' || c = ']' || c = '"' || beginsNumber c || beginsKey c

/-- **What is wrong with the first token of a text**, and the part of the text before the place of
the fault: a text that does not end is at fault where it begins, a number where it ends. -/
inductive Malformed : List Char → Reason → List Char → Prop where
  | unterminated {text : List Char} (unquoted : '"' ∉ text) :
      Malformed ('"' :: text) .unterminatedText []
  | number {c : Char} {more after : List Char} {reason : Reason} (begins : beginsNumber c = true)
      (longest : Run continuesNumber more after)
      (refused : Token.ofNumber (c :: more) = .error reason) :
      Malformed (c :: (more ++ after)) reason (c :: more)
  | unexpected {c : Char} (rest : List Char) (notBlank : isBlank c = false) (notMark : c ≠ '#')
      (noToken : beginsToken c = false) : Malformed (c :: rest) (.unexpectedCharacter c) []

/-- No number and no key has a newline in it: a newline neither begins nor continues one. -/
theorem count_newline_word {begins continues : Char → Bool} (noFirst : begins '\n' = false)
    (noMore : continues '\n' = false) {c : Char} {more after : List Char} (first : begins c = true)
    (longest : Run continues more after) : (c :: more).count '\n' = 0 := by
  rw [List.count_eq_zero]
  intro member
  rcases List.mem_cons.mp member with rfl | member
  · rw [noFirst] at first
    cases first
  · have inside := longest.inside _ member
    rw [noMore] at inside
    cases inside

/-- **The line behind a token counts the newlines in it**; only a text has any. -/
theorem Reads.advances {line : Nat} {c : Char} {rest : List Char} {lexeme : Lexeme}
    (reads : Reads line c rest lexeme) : Advances line (c :: rest) lexeme.line lexeme.rest := by
  cases reads with
  | opening after => exact ⟨['['], rfl, rfl⟩
  | closing after => exact ⟨[']'], rfl, rfl⟩
  | text text after unquoted =>
    refine ⟨'"' :: (text ++ ['"']), by simp, ?_⟩
    rw [List.count_cons_of_ne (by decide), List.count_append, List.count_singleton,
      if_neg (by decide), Nat.add_zero]
  | @number _ more after token begins longest read =>
    have oneLine := count_newline_word (by decide) (by decide) begins longest
    exact ⟨c :: more, rfl, by rw [oneLine, Nat.add_zero]⟩
  | @key _ more after begins longest =>
    have oneLine := count_newline_word (by decide) (by decide) begins longest
    exact ⟨c :: more, rfl, by rw [oneLine, Nat.add_zero]⟩

namespace Malformed

/-- A malformed token begins no gap. -/
theorem begins {text within : List Char} {reason : Reason} (bad : Malformed text reason within) :
    ∃ c rest, text = c :: rest ∧ isBlank c = false ∧ c ≠ '#' := by
  cases bad with
  | unterminated => exact ⟨_, _, rfl, by decide, by decide⟩
  | @number c more after _ begins =>
    have range := toNat_of_beginsNumber begins
    refine ⟨c, _, rfl, not_isBlank (by omega) (by omega), ?_⟩
    rintro rfl
    exact absurd begins (by decide)
  | unexpected rest notBlank notMark => exact ⟨_, rest, rfl, notBlank, notMark⟩

/-- There is no newline between the beginning of the token and the place of the fault. -/
theorem count_newline {text within : List Char} {reason : Reason}
    (bad : Malformed text reason within) : within.count '\n' = 0 := by
  cases bad with
  | unterminated => rfl
  | number begins longest => exact count_newline_word (by decide) (by decide) begins longest
  | unexpected => rfl

/-- The lexer refuses a malformed token, on the line on which it begins. -/
theorem read_eq_error {line : Nat} {c : Char} {rest within : List Char} {reason : Reason}
    (bad : Malformed (c :: rest) reason within) :
    Lexeme.read line c rest = .error ⟨line, reason⟩ := by
  unfold Lexeme.read
  cases bad with
  | unterminated unquoted =>
    have longest : Run (· ≠ '"') rest [] :=
      ⟨(run_unquoted unquoted []).inside, fun c first => by cases first⟩
    have dropped := longest.dropWhile_eq
    rw [List.append_nil] at dropped
    rw [if_neg (by decide), if_neg (by decide), if_pos rfl]
    dsimp only
    rw [dropped]
  | number begins longest refused =>
    obtain ⟨notOpening, notClosing, notQuoted⟩ := beginsNumber_ne begins
    rw [if_neg notOpening, if_neg notClosing, if_neg notQuoted, if_pos begins,
      longest.takeWhile_eq, refused]
  | unexpected _ _ _ noToken =>
    simp only [beginsToken, Bool.or_eq_false_iff, decide_eq_false_iff_not] at noToken
    obtain ⟨⟨⟨⟨notOpening, notClosing⟩, notQuoted⟩, notNumber⟩, notKey⟩ := noToken
    rw [if_neg notOpening, if_neg notClosing, if_neg notQuoted, notNumber, notKey,
      if_neg Bool.false_ne_true, if_neg Bool.false_ne_true]

end Malformed

/-- Where no gap begins there is a token, or a malformed one. -/
theorem exists_reads_or_malformed (line : Nat) {c : Char} (rest : List Char)
    (notBlank : isBlank c = false) (notMark : c ≠ '#') :
    (∃ lexeme, Reads line c rest lexeme) ∨
      ∃ reason within, Malformed (c :: rest) reason within := by
  by_cases opening : c = '['
  · rw [opening]
    exact .inl ⟨_, .opening rest⟩
  by_cases closing : c = ']'
  · rw [closing]
    exact .inl ⟨_, .closing rest⟩
  by_cases quoted : c = '"'
  · obtain ⟨text, after, rfl, longest⟩ := Run.exists_append (· ≠ '"') rest
    have unquoted : '"' ∉ text := fun member => by simpa using longest.inside _ member
    rw [quoted]
    cases after with
    | nil =>
      rw [List.append_nil]
      exact .inr ⟨_, _, .unterminated unquoted⟩
    | cons mark after =>
      obtain rfl : mark = '"' := by simpa using longest.stops mark rfl
      exact .inl ⟨_, .text text after unquoted⟩
  by_cases number : beginsNumber c = true
  · obtain ⟨more, after, rfl, longest⟩ := Run.exists_append continuesNumber rest
    cases converted : Token.ofNumber (c :: more) with
    | ok token => exact .inl ⟨_, .number number longest converted⟩
    | error reason => exact .inr ⟨_, _, .number number longest converted⟩
  by_cases key : beginsKey c = true
  · obtain ⟨more, after, rfl, longest⟩ := Run.exists_append continuesKey rest
    exact .inl ⟨_, .key key longest⟩
  · refine .inr ⟨_, _, .unexpected rest notBlank notMark ?_⟩
    simp [beginsToken, opening, closing, quoted, number, key]

/-- The lexer refuses exactly the malformed tokens, on the line on which they begin. -/
theorem Lexeme.read_eq_error_iff {line : Nat} {c : Char} {rest : List Char} {fault : Fault}
    (notBlank : isBlank c = false) (notMark : c ≠ '#') :
    Lexeme.read line c rest = .error fault ↔
      (∃ within, Malformed (c :: rest) fault.reason within) ∧ fault.line = line := by
  constructor
  · intro refused
    rcases exists_reads_or_malformed line rest notBlank notMark with
      ⟨lexeme, reads⟩ | ⟨reason, within, bad⟩
    · rw [Lexeme.read_of_reads reads] at refused
      cases refused
    · rw [bad.read_eq_error] at refused
      cases refused
      exact ⟨⟨within, bad⟩, rfl⟩
  · obtain ⟨reached, reason⟩ := fault
    rintro ⟨⟨within, bad⟩, rfl⟩
    exact bad.read_eq_error

/-- **A malformed token is refused** behind a gap, on the line of its place. -/
theorem next?_eq_error_iff {line : Nat} {source : List Char} {fault : Fault} :
    next? line source = .error fault ↔
      ∃ gap text within, source = gap ++ text ∧ Gap gap ∧ Malformed text fault.reason within ∧
        fault.line = line + (gap ++ within).count '\n' := by
  unfold next?
  constructor
  · intro refused
    split at refused
    · cases refused
    · rename_i began c rest skipped
      obtain ⟨gap, rfl, rfl, isGap, notBlank, notMark⟩ := exists_skipsTo skipped
      cases read : Lexeme.read (line + gap.count '\n') c rest with
      | ok lexeme =>
        rw [read] at refused
        cases refused
      | error other =>
        rw [read] at refused
        cases refused
        obtain ⟨⟨within, bad⟩, same⟩ := (Lexeme.read_eq_error_iff notBlank notMark).mp read
        refine ⟨gap, c :: rest, within, rfl, isGap, bad, ?_⟩
        rw [same, List.count_append, bad.count_newline, Nat.add_zero]
  · rintro ⟨gap, text, within, rfl, isGap, bad, same⟩
    obtain ⟨c, rest, rfl, notBlank, notMark⟩ := bad.begins
    rw [List.count_append, bad.count_newline, Nat.add_zero] at same
    rw [skipGap_gap isGap, skipGap_of_not_gap notBlank notMark]
    dsimp only
    rw [(Lexeme.read_eq_error_iff notBlank notMark).mpr ⟨⟨within, bad⟩, same⟩]
    rfl

/-- **The line behind the next token** counts the newlines up to there. -/
theorem next?_advances {line reached : Nat} {source : List Char} {lexeme : Lexeme}
    (found : next? line source = .ok (reached, some lexeme)) :
    Advances line source reached lexeme.rest := by
  obtain ⟨began, c, rest, skipped, reads, rfl⟩ := next?_eq_some_iff.mp found
  obtain ⟨gap, rfl, rfl, _⟩ := exists_skipsTo skipped
  have gaps : Advances line (gap ++ c :: rest) (line + gap.count '\n') (c :: rest) :=
    ⟨gap, rfl, rfl⟩
  exact gaps.trans reads.advances

namespace Lexes

/-- **The line behind tokens** counts the newlines up to there. -/
theorem advances {line last : Nat} {source rest : List Char} {tokens : List Token}
    (lexes : Lexes line source tokens last rest) : Advances line source last rest := by
  induction lexes with
  | done line source => exact .refl line source
  | token found _ ih => exact (next?_advances found).trans ih

/-- Tokens go on behind others. -/
theorem append {line between last : Nat} {source middle rest : List Char}
    {first second : List Token} (lexes : Lexes line source first between middle)
    (more : Lexes between middle second last rest) :
    Lexes line source (first ++ second) last rest := by
  induction lexes with
  | done => exact more
  | token found _ ih => exact .token found (ih more)

end Lexes

end ApkFeatures.Gml
