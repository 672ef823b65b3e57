/-
**Where files are refused.**

A file is refused at the first place where it ceases to begin as a document. What is wrong there
tells the place: it is before a text that does not end and before a character that begins no token,
behind a token that is misplaced or malformed, and at the end of the file if something is missing.
The line of the fault is one more than the number of newlines before the place.

* `Partial.exists_pushAll_iff` — the reader accepts the tokens with which some document begins.
* `Partial.push_eq_error_iff`, `Partial.finish_eq_error_iff` — which tokens it refuses, and at which
  it may not end.
* `parse_eq_error_iff`, `parse_fault_line` — the place and the line of a fault.
-/
import ApkFeatures.Proofs.Gml.Grammar
import ApkFeatures.Proofs.Gml.Position

namespace ApkFeatures.Gml

/-! ### Tokens that are accepted -/

/-- Some document begins with the tokens, and its lists are not nested too deeply. -/
def BeginDocument (tokens : List Token) : Prop :=
  ∃ document more, flatten document = tokens ++ more ∧ nesting document ≤ depthLimit

namespace Partial

/-- The document that closes all open lists. -/
def closeAll : List (List Entry × String) → List Entry → Document
  | [], entries => entries.reverse
  | (before, key) :: outer, entries => closeAll outer ((key, .list entries.reverse) :: before)

/-- Closing the lists only adds tokens. -/
theorem flatten_closeAll (outer : List (List Entry × String)) (entries : List Entry) :
    ∃ more, flatten (closeAll outer entries) =
      openTokens outer ++ flatten entries.reverse ++ more := by
  induction outer generalizing entries with
  | nil => exact ⟨[], by simp [closeAll, openTokens]⟩
  | cons list outer ih =>
    obtain ⟨before, key⟩ := list
    obtain ⟨more, closed⟩ := ih ((key, .list entries.reverse) :: before)
    refine ⟨.closing :: more, ?_⟩
    rw [closeAll, closed]
    simp [openTokens, Value.tokens]

/-- Closing the lists nests them no deeper than they are. -/
theorem nesting_closeAll {outer : List (List Entry × String)} {entries : List Entry}
    (fits : Fits outer entries) : nesting (closeAll outer entries) ≤ depthLimit := by
  induction outer generalizing entries with
  | nil =>
    rw [closeAll, nesting_reverse]
    exact fits
  | cons list outer ih =>
    obtain ⟨before, key⟩ := list
    refine ih (fits.2.cons key ?_)
    have bound : outer.length + 1 + nesting entries ≤ depthLimit := fits.1
    rw [Value.depth_list, nesting_reverse]
    omega

/-- **What has been read is the beginning of a document**: of the one that gives the key that waits
a value and closes the open lists. -/
theorem beginDocument_tokens {partialRead : Partial}
    (fits : Fits partialRead.outer partialRead.entries) : BeginDocument partialRead.tokens := by
  obtain ⟨outer, entries, key?⟩ := partialRead
  cases key? with
  | none =>
    obtain ⟨more, closed⟩ := flatten_closeAll outer entries
    exact ⟨_, more, by simpa [tokens] using closed, nesting_closeAll fits⟩
  | some key =>
    have single : outer.length + (Value.int 0).depth ≤ depthLimit := by
      have bound : outer.length + nesting entries ≤ depthLimit := fits.bound
      rw [Value.depth_of_single rfl]
      omega
    obtain ⟨more, closed⟩ := flatten_closeAll outer ((key, .int 0) :: entries)
    refine ⟨_, .int 0 :: more, ?_, nesting_closeAll (fits.cons key single)⟩
    rw [closed]
    simp [tokens, Value.tokens]

/-- **What tokens leave**: they are kept in order, and no list is nested too deeply. -/
theorem tokens_of_pushAll {partialRead longer : Partial} {read : List Token}
    (fits : Fits partialRead.outer partialRead.entries)
    (pushed : partialRead.pushAll read = .ok longer) :
    longer.tokens = partialRead.tokens ++ read ∧ Fits longer.outer longer.entries := by
  induction read generalizing partialRead with
  | nil =>
    cases pushed
    exact ⟨(List.append_nil _).symm, fits⟩
  | cons token read ih =>
    obtain ⟨next, step, rest⟩ := Fallible.bind_eq_ok_iff.mp pushed
    obtain ⟨kept, fitted⟩ := ih (fits_of_push fits step) rest
    refine ⟨?_, fitted⟩
    rw [kept, push_tokens step, List.append_assoc]
    rfl

/-- **The reader accepts exactly the tokens with which some document begins.** -/
theorem exists_pushAll_iff {read : List Token} :
    (∃ longer, empty.pushAll read = .ok longer) ↔ BeginDocument read := by
  constructor
  · rintro ⟨longer, pushed⟩
    obtain ⟨kept, fits⟩ := tokens_of_pushAll (show Fits [] [] from Nat.zero_le _) pushed
    have begins := beginDocument_tokens fits
    rwa [kept] at begins
  · rintro ⟨document, more, whole, shallow⟩
    have pushed := pushAll_flatten document [] [] (by simpa using shallow)
    rw [whole] at pushed
    obtain ⟨longer, first, _⟩ := pushAll_append pushed
    exact ⟨longer, first⟩

end Partial

/-! ### Tokens that are refused -/

/-- **A token that does not go on with a document**, and what is wrong with it behind these tokens:
it is no key where a key belongs, unless it closes a list, or no value where a value belongs, or it
opens a list at level 65. -/
inductive Misplaced : List Token → Token → Reason → Prop where
  | expectedKey {tokens : List Token} {token : Token}
      (noKey : ∀ before name, tokens ≠ before ++ [.key name]) (notKey : ∀ name, token ≠ .key name)
      (unopened : token = .closing → tokens.count .opening = tokens.count .closing) :
      Misplaced tokens token (.expectedKey token)
  | expectedValue (before : List Token) (name : String) {token : Token}
      (noValue : token.beginsValue = false) :
      Misplaced (before ++ [.key name]) token (.expectedValue name token)
  | tooDeep (before : List Token) (name : String)
      (full : before.count .opening = before.count .closing + 64) :
      Misplaced (before ++ [.key name]) .opening .tooDeep

/-- **What is missing at the end of the tokens**: the value of the last key, or a bracket. -/
inductive Missing : List Token → Reason → Prop where
  | value (before : List Token) (name : String) :
      Missing (before ++ [.key name]) (.missingValue name)
  | bracket {tokens : List Token} (noKey : ∀ before name, tokens ≠ before ++ [.key name])
      (unclosed : tokens.count .closing < tokens.count .opening) : Missing tokens .unclosedList

namespace Partial

/-- No key waits if the last token is none. -/
theorem Agrees.key?_eq_none_iff {tokens : List Token} {partialRead : Partial}
    (agrees : Agrees tokens partialRead) :
    partialRead.key? = none ↔ ∀ before name, tokens ≠ before ++ [.key name] := by
  rw [Option.eq_none_iff_forall_ne_some]
  constructor
  · exact fun none before name same => none name ((agrees.waits name).mpr ⟨before, same⟩)
  · intro noKey name waits
    obtain ⟨before, same⟩ := (agrees.waits name).mp waits
    exact noKey before name same

/-- The level of a key is that of the tokens before it. -/
theorem Agrees.level_of_key {before : List Token} {name : String} {partialRead : Partial}
    (agrees : Agrees (before ++ [.key name]) partialRead) :
    before.count .closing + partialRead.outer.length = before.count .opening := by
  have level := agrees.level
  simpa using level

/-- Where no key waits, the reader refuses all but a key and the bracket of an open list. -/
theorem push_eq_error_of_none {outer : List (List Entry × String)} {entries : List Entry}
    {token : Token} {reason : Reason} :
    (⟨outer, entries, none⟩ : Partial).push token = .error reason ↔
      (∀ name, token ≠ .key name) ∧ (token = .closing → outer = []) ∧
        reason = .expectedKey token := by
  unfold push
  cases token with
  | closing => cases outer <;> simp [eq_comm]
  | _ => simp [eq_comm]

/-- Where a key waits, the reader refuses what begins no value, and a bracket below the limit. -/
theorem push_eq_error_of_some {outer : List (List Entry × String)} {entries : List Entry}
    {key : String} {token : Token} {reason : Reason} :
    (⟨outer, entries, some key⟩ : Partial).push token = .error reason ↔
      token.beginsValue = false ∧ reason = .expectedValue key token ∨
        token = .opening ∧ depthLimit ≤ outer.length ∧ reason = .tooDeep := by
  unfold push
  cases token with
  | opening =>
    by_cases room : outer.length < depthLimit
    · simp [Token.beginsValue, room, Nat.not_le.mpr room]
    · simp [Token.beginsValue, room, Nat.le_of_not_lt room, eq_comm]
  | _ => simp [Token.beginsValue, eq_comm]

/-- **The reader refuses exactly the misplaced tokens.** -/
theorem push_eq_error_iff {tokens : List Token} {partialRead : Partial} {token : Token}
    {reason : Reason} (agrees : Agrees tokens partialRead) :
    partialRead.push token = .error reason ↔ Misplaced tokens token reason := by
  obtain ⟨outer, entries, key?⟩ := partialRead
  cases key? with
  | none =>
    have noKey := agrees.key?_eq_none_iff.mp rfl
    have level : tokens.count .closing + outer.length = tokens.count .opening := agrees.level
    have balanced : outer = [] ↔ tokens.count .opening = tokens.count .closing := by
      rw [← List.length_eq_zero_iff]
      omega
    rw [push_eq_error_of_none]
    constructor
    · rintro ⟨notKey, unopened, rfl⟩
      exact .expectedKey noKey notKey fun closing => balanced.mp (unopened closing)
    · intro bad
      cases bad with
      | expectedKey _ notKey unopened =>
        exact ⟨notKey, fun closing => balanced.mpr (unopened closing), rfl⟩
      | expectedValue before name => exact absurd rfl (noKey before name)
      | tooDeep before name => exact absurd rfl (noKey before name)
  | some key =>
    obtain ⟨before, same⟩ := (agrees.waits key).mp rfl
    have level : before.count .closing + outer.length = before.count .opening :=
      (same ▸ agrees).level_of_key
    have room : outer.length ≤ 64 := agrees.room
    have full : depthLimit ≤ outer.length ↔
        before.count .opening = before.count .closing + 64 := by
      show 64 ≤ outer.length ↔ _
      omega
    rw [push_eq_error_of_some]
    constructor
    · rw [same]
      rintro (⟨noValue, rfl⟩ | ⟨rfl, below, rfl⟩)
      · exact .expectedValue before key noValue
      · exact .tooDeep before key (full.mp below)
    · intro bad
      cases bad with
      | expectedKey noKey => exact absurd same (noKey before key)
      | expectedValue before' name noValue =>
        obtain ⟨_, last⟩ := List.append_inj' same rfl
        cases last
        exact Or.inl ⟨noValue, rfl⟩
      | tooDeep before' name level' =>
        obtain ⟨rfl, last⟩ := List.append_inj' same rfl
        exact Or.inr ⟨rfl, full.mpr level', rfl⟩

/-- **The reader misses exactly what is missing.** -/
theorem finish_eq_error_iff {tokens : List Token} {partialRead : Partial} {reason : Reason}
    (agrees : Agrees tokens partialRead) :
    partialRead.finish = .error reason ↔ Missing tokens reason := by
  obtain ⟨outer, entries, key?⟩ := partialRead
  cases key? with
  | none =>
    have noKey := agrees.key?_eq_none_iff.mp rfl
    have level : tokens.count .closing + outer.length = tokens.count .opening := agrees.level
    constructor
    · intro refused
      cases outer with
      | nil => cases refused
      | cons list outer =>
        cases refused
        rw [List.length_cons] at level
        exact .bracket noKey (by omega)
    · intro bad
      cases bad with
      | value before name => exact absurd rfl (noKey before name)
      | bracket _ unclosed =>
        cases outer with
        | nil =>
          rw [List.length_nil] at level
          omega
        | cons list outer => rfl
  | some key =>
    obtain ⟨before, same⟩ := (agrees.waits key).mp rfl
    constructor
    · intro refused
      cases refused
      rw [same]
      exact .value before key
    · intro bad
      cases bad with
      | value before' name =>
        obtain ⟨_, last⟩ := List.append_inj' same rfl
        cases last
        rfl
      | bracket noKey => exact absurd same (noKey before key)

end Partial

/-! ### Places of faults -/

/-- The tokens stand at the beginning of the source: `before` is the source up to the end of the
last one, and `after` is what follows it. -/
def Reaches (source : List Char) (tokens : List Token) (before after : List Char) : Prop :=
  source = before ++ after ∧ ∃ line, Lexes 1 source tokens line after

/-- **What is wrong with a source, and the part of it before the place of the fault.** The tokens
before that begin some document, so it is the first fault. -/
inductive FaultsAt (source : List Char) : Reason → List Char → Prop where
  | malformed {tokens : List Token} {before gap text within : List Char} {reason : Reason}
      (reaches : Reaches source tokens before (gap ++ text)) (begins : BeginDocument tokens)
      (isGap : Gap gap) (bad : Malformed text reason within) :
      FaultsAt source reason (before ++ (gap ++ within))
  | misplaced {tokens : List Token} {token : Token} {before after : List Char} {reason : Reason}
      (reaches : Reaches source (tokens ++ [token]) before after) (begins : BeginDocument tokens)
      (bad : Misplaced tokens token reason) : FaultsAt source reason before
  | missing {tokens : List Token} {reason : Reason} (written : HasTokens source tokens)
      (begins : BeginDocument tokens) (bad : Missing tokens reason) :
      FaultsAt source reason source

namespace Partial

/-- **The line of a fault tells its place**, wherever the reader has come to. -/
theorem exists_faultsAt {source : List Char} {tokens : List Token} {line : Nat} {rest : List Char}
    {partialRead : Partial} {fault : Fault} (lexes : Lexes 1 source tokens line rest)
    (pushed : empty.pushAll tokens = .ok partialRead)
    (refused : partialRead.read line rest = .error fault) :
    ∃ before, FaultsAt source fault.reason before ∧ fault.line = 1 + before.count '\n' := by
  fun_induction Partial.read partialRead line rest generalizing tokens with
  | case1 partialRead line rest other found =>
    cases refused
    obtain ⟨gap, text, within, rfl, isGap, bad, same⟩ := next?_eq_error_iff.mp found
    obtain ⟨before, whole, counted⟩ := lexes.advances
    have begins := exists_pushAll_iff.mp ⟨_, pushed⟩
    refine ⟨before ++ (gap ++ within), .malformed ⟨whole, line, lexes⟩ begins isGap bad, ?_⟩
    simp only [same, counted, List.count_append, Nat.add_assoc]
  | case2 partialRead line rest reached found =>
    obtain ⟨reason, unfinished, rfl⟩ := Fallible.mapError_eq_error_iff.mp refused
    have bad := (finish_eq_error_iff (agrees_of_pushAll tokens pushed)).mp unfinished
    have written : HasTokens source tokens := ⟨line, rest, reached, lexes, found⟩
    refine ⟨source, .missing written (exists_pushAll_iff.mp ⟨_, pushed⟩) bad, ?_⟩
    obtain ⟨before, rfl, rfl⟩ := lexes.advances
    rw [(next?_eq_none_iff.mp found).2, List.count_append, Nat.add_assoc]
  | case3 partialRead line rest reached lexeme found _ reason wrong =>
    cases refused
    have bad := (push_eq_error_iff (agrees_of_pushAll tokens pushed)).mp wrong
    have longer : Lexes 1 source (tokens ++ [lexeme.token]) reached lexeme.rest :=
      lexes.append (.token found (.done _ _))
    obtain ⟨before, whole, counted⟩ := longer.advances
    have begins := exists_pushAll_iff.mp ⟨_, pushed⟩
    exact ⟨before, .misplaced ⟨whole, reached, longer⟩ begins bad, counted⟩
  | case4 partialRead line rest reached lexeme found _ longer step ih =>
    have more : empty.pushAll (tokens ++ [lexeme.token]) = .ok longer := by
      rw [pushAll_append_of_ok pushed, pushAll_cons_of_ok step]
      rfl
    exact ih (lexes.append (.token found (.done _ _))) more refused

end Partial

/-- **A source is refused at the first place where it ceases to begin as a document**, and the line
of the fault is one more than the number of newlines before that place. -/
theorem parse_eq_error_iff {source : List Char} {fault : Fault} :
    parse source = .error fault ↔
      ∃ before, FaultsAt source fault.reason before ∧ fault.line = 1 + before.count '\n' := by
  constructor
  · exact fun refused => Partial.exists_faultsAt (.done 1 source) rfl refused
  · obtain ⟨reported, reason⟩ := fault
    rintro ⟨before, faulty, counted⟩
    have counted : reported = 1 + before.count '\n' := counted
    unfold parse
    cases faulty with
    | @malformed tokens before gap text within _ reaches begins isGap bad =>
      obtain ⟨whole, line, lexes⟩ := reaches
      obtain ⟨partialRead, pushed⟩ := Partial.exists_pushAll_iff.mpr begins
      have same := lexes.advances.line_eq whole
      have refused : next? line (gap ++ text) = .error ⟨reported, reason⟩ := by
        refine next?_eq_error_iff.mpr ⟨gap, text, within, rfl, isGap, bad, ?_⟩
        simp only [counted, same, List.count_append, Nat.add_assoc]
      rw [Partial.read_of_lexes lexes pushed, Partial.read_eq, refused]
    | @misplaced tokens token before after _ reaches begins bad =>
      obtain ⟨whole, line, lexes⟩ := reaches
      obtain ⟨partialRead, pushed⟩ := Partial.exists_pushAll_iff.mpr begins
      have same := lexes.advances.line_eq whole
      obtain ⟨reached, between, first, last⟩ := lexes.split
      obtain ⟨final, lexeme, found, rfl, more⟩ := last.next
      cases more with
      | done =>
        have wrong := (Partial.push_eq_error_iff (Partial.agrees_of_pushAll tokens pushed)).mpr bad
        rw [Partial.read_of_lexes first pushed, Partial.read_eq, found]
        dsimp only
        rw [wrong]
        exact congrArg Except.error (congrArg (Fault.mk · reason) (same.trans counted.symm))
    | @missing tokens _ written begins bad =>
      obtain ⟨last, rest, reached, lexes, ended⟩ := written
      obtain ⟨partialRead, pushed⟩ := Partial.exists_pushAll_iff.mpr begins
      have unfinished :=
        (Partial.finish_eq_error_iff (Partial.agrees_of_pushAll tokens pushed)).mpr bad
      obtain ⟨passed, rfl, same⟩ := lexes.advances
      have final := (next?_eq_none_iff.mp ended).2
      rw [Partial.read_of_lexes lexes pushed, Partial.read_of_end _ ended, unfinished]
      refine congrArg Except.error (congrArg (Fault.mk · reason) ?_)
      rw [final, same, counted, List.count_append, Nat.add_assoc]

/-- **Reported lines are right.** The line of a fault is one more than the number of newlines before
its place, and the reader's line behind any tokens of a source is one more than the number of
newlines up to there. -/
theorem parse_fault_line (source : List Char) :
    (∀ fault, parse source = .error fault ↔
      ∃ before, FaultsAt source fault.reason before ∧ fault.line = 1 + before.count '\n') ∧
    ∀ tokens line rest, Lexes 1 source tokens line rest →
      ∃ passed, source = passed ++ rest ∧ line = 1 + passed.count '\n' :=
  ⟨fun _ => parse_eq_error_iff, fun _ _ _ lexes => lexes.advances⟩

/-- A bracket that closes nothing, behind a text of two lines and a comment. -/
theorem parse_fault_line_sample :
    parse "a \"x\ny\"#c\n] b".toList = .error ⟨3, .expectedKey .closing⟩ ∧
      ∃ passed, "a \"x\ny\"#c\n] b".toList = passed ++ "#c\n] b".toList ∧
        2 = 1 + passed.count '\n' := by
  let text := String.ofList (unescape "x\ny".toList)
  have first : Lexes 1 "a \"x\ny\"#c\n] b".toList [.key "a", .text text] 2 "#c\n] b".toList :=
    .cons rfl <| .cons rfl <| .done 2 _
  have second : Lexes 2 "#c\n] b".toList [.closing] 3 " b".toList := .cons rfl <| .done 3 _
  have begins : BeginDocument [.key "a", .text text] := ⟨[("a", .text text)], [], rfl, by decide⟩
  have bad : Misplaced [.key "a", .text text] .closing (.expectedKey .closing) := by
    refine .expectedKey (fun before name same => ?_) (fun name same => by cases same) fun _ => rfl
    have last : [.key "a"] ++ [Token.text text] = before ++ [.key name] := same
    cases (List.append_inj' last rfl).2
  refine ⟨((parse_fault_line _).1 _).mpr ⟨"a \"x\ny\"#c\n]".toList, ?_, rfl⟩,
    (parse_fault_line _).2 _ _ _ first⟩
  exact .misplaced ⟨rfl, 3, first.append second⟩ begins bad

end ApkFeatures.Gml
