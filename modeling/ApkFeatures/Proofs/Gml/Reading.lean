/-
**The reader as a machine on tokens.**

The reader takes one token after the other from the source. `Lexes` says which tokens stand at the
beginning of a source and what follows them; it is one call of `next?` after the other. What a
document is does not depend on the characters beyond that:

* `Partial.push_tokens` — a step of the reader keeps the tokens it took, in order.
* `parse_tokens` — the tokens of a source that is read are those of its document.
* `parse_of_tokens` — a source with the tokens of a document that is not nested too deeply is read
  as that document.
-/
import ApkFeatures.Proofs.Fallible
import ApkFeatures.Proofs.Gml.Flattening

namespace ApkFeatures.Gml

/-! ### What has been read, as tokens -/

namespace Partial

/-- The tokens before the innermost open list, with its key and bracket. -/
def openTokens : List (List Entry × String) → List Token
  | [] => []
  | (before, key) :: outer => openTokens outer ++ (flatten before.reverse ++ [.key key, .opening])

/-- The tokens that have been read. -/
def tokens (partialRead : Partial) : List Token :=
  openTokens partialRead.outer ++
    (flatten partialRead.entries.reverse ++ (partialRead.key?.map Token.key).toList)

theorem tokens_give (outer : List (List Entry × String)) (entries : List Entry) (key : String)
    (value : Value) :
    (⟨outer, (key, value) :: entries, none⟩ : Partial).tokens =
      (⟨outer, entries, some key⟩ : Partial).tokens ++ value.tokens := by
  simp [tokens]

/-- **A step keeps the tokens**: what has been read afterwards is what was read before, and the
token. -/
theorem push_tokens {partialRead longer : Partial} {token : Token}
    (pushed : partialRead.push token = .ok longer) :
    longer.tokens = partialRead.tokens ++ [token] := by
  obtain ⟨outer, entries, key?⟩ := partialRead
  cases key? with
  | none =>
    cases token with
    | key name =>
      cases pushed
      simp [tokens]
    | closing =>
      cases outer with
      | nil => cases pushed
      | cons list outer =>
        obtain ⟨before, key⟩ := list
        cases pushed
        rw [tokens_give]
        simp [tokens, openTokens, Value.tokens]
    | int value => cases pushed
    | real value => cases pushed
    | text value => cases pushed
    | opening => cases pushed
  | some key =>
    cases token with
    | int value =>
      cases pushed
      exact tokens_give _ _ _ _
    | real value =>
      cases pushed
      exact tokens_give _ _ _ _
    | text value =>
      cases pushed
      exact tokens_give _ _ _ _
    | opening =>
      unfold push at pushed
      dsimp only at pushed
      split at pushed
      · cases pushed
        simp [tokens, openTokens]
      · cases pushed
    | key name => cases pushed
    | closing => cases pushed

/-- Reads several tokens. -/
def pushAll (partialRead : Partial) (read : List Token) : Except Reason Partial :=
  read.foldlM push partialRead

theorem pushAll_cons_of_ok {partialRead longer : Partial} {token : Token} {more : List Token}
    (pushed : partialRead.push token = .ok longer) :
    partialRead.pushAll (token :: more) = longer.pushAll more := by
  unfold pushAll
  rw [List.foldlM_cons, pushed]
  rfl

theorem pushAll_append_of_ok {partialRead longer : Partial} {first more : List Token}
    (pushed : partialRead.pushAll first = .ok longer) :
    partialRead.pushAll (first ++ more) = longer.pushAll more := by
  unfold pushAll at pushed ⊢
  rw [List.foldlM_append, pushed]
  rfl

/-- A document that is ended is all that has been read. -/
theorem finish_tokens {partialRead : Partial} {document : Document}
    (finished : partialRead.finish = .ok document) : partialRead.tokens = flatten document := by
  obtain ⟨outer, entries, key?⟩ := partialRead
  cases key? with
  | some key => cases finished
  | none =>
    cases outer with
    | cons list outer => cases finished
    | nil =>
      cases finished
      simp [tokens, openTokens]

/-! ### The tokens of a document, read -/

/-- A value that is no list is given to its key by its one token. -/
theorem push_single {value : Value} (single : value.list? = none)
    (outer : List (List Entry × String)) (before : List Entry) (key : String) :
    (⟨outer, before, some key⟩ : Partial).pushAll value.tokens =
      .ok ⟨outer, (key, value) :: before, none⟩ := by
  cases value with
  | list entries => cases single
  | int value => rfl
  | real value => rfl
  | text value => rfl

/-- **The reader takes the tokens of entries and gives the entries**, if the lists that are open
leave room for theirs. -/
theorem pushAll_flatten (entries : List Entry) :
    ∀ (outer : List (List Entry × String)) (before : List Entry),
      outer.length + nesting entries ≤ depthLimit →
        (⟨outer, before, none⟩ : Partial).pushAll (flatten entries) =
          .ok ⟨outer, entries.reverse ++ before, none⟩ := by
  induction entries using entries_induction with
  | nil => exact fun outer before _ => rfl
  | list key nested entries ihNested ih =>
    intro outer before room
    have deeper : outer.length + (nesting nested + 1) ≤ depthLimit :=
      Nat.le_trans (Nat.add_le_add_left (Nat.le_max_left _ _) _) room
    have beside : outer.length + nesting entries ≤ depthLimit :=
      Nat.le_trans (Nat.add_le_add_left (Nat.le_max_right _ _) _) room
    have keyed : (⟨outer, before, none⟩ : Partial).push (.key key) =
        .ok ⟨outer, before, some key⟩ := rfl
    have opened : (⟨outer, before, some key⟩ : Partial).push .opening =
        .ok ⟨(before, key) :: outer, [], none⟩ :=
      if_pos (show outer.length < depthLimit by omega)
    have inside := ihNested ((before, key) :: outer) [] (by rw [List.length_cons]; omega)
    have closed : (⟨(before, key) :: outer, nested.reverse ++ [], none⟩ : Partial).push .closing =
        .ok ⟨outer, (key, .list nested) :: before, none⟩ := by
      unfold push
      dsimp only
      rw [List.append_nil, List.reverse_reverse]
    rw [flatten_cons, pushAll_cons_of_ok keyed]
    unfold Value.tokens
    rw [List.cons_append, pushAll_cons_of_ok opened, List.append_assoc,
      pushAll_append_of_ok inside, List.singleton_append, pushAll_cons_of_ok closed,
      ih outer _ beside, List.reverse_cons, List.append_assoc]
    rfl
  | single key value entries single ih =>
    intro outer before room
    have beside : outer.length + nesting entries ≤ depthLimit :=
      Nat.le_trans (Nat.add_le_add_left (Nat.le_max_right _ _) _) room
    have keyed : (⟨outer, before, none⟩ : Partial).push (.key key) =
        .ok ⟨outer, before, some key⟩ := rfl
    rw [flatten_cons, pushAll_cons_of_ok keyed,
      pushAll_append_of_ok (push_single single outer before key), ih outer _ beside,
      List.reverse_cons, List.append_assoc]
    rfl

end Partial

/-! ### Tokens of a source -/

/-- **The tokens at the beginning of a source**, with the line they begin on, the line they end on
and what follows them. -/
inductive Lexes : Nat → List Char → List Token → Nat → List Char → Prop where
  | done (line : Nat) (source : List Char) : Lexes line source [] line source
  | token {line reached last : Nat} {source rest : List Char} {lexeme : Lexeme}
      {tokens : List Token} (found : next? line source = .ok (reached, some lexeme))
      (more : Lexes reached lexeme.rest tokens last rest) :
      Lexes line source (lexeme.token :: tokens) last rest

/-- The source consists of the tokens: nothing but a gap follows them. -/
def HasTokens (source : List Char) (tokens : List Token) : Prop :=
  ∃ last rest reached, Lexes 1 source tokens last rest ∧ next? last rest = .ok (reached, none)

namespace Partial

/-- The reader without the evidence that it ends. -/
theorem read_eq (partialRead : Partial) (line : Nat) (source : List Char) :
    partialRead.read line source =
      match next? line source with
      | .error fault => .error fault
      | .ok (reached, none) => partialRead.finish.mapError fun reason => ⟨reached, reason⟩
      | .ok (reached, some lexeme) =>
        match partialRead.push lexeme.token with
        | .error reason => .error ⟨reached, reason⟩
        | .ok longer => longer.read reached lexeme.rest := by
  rw [read]
  split
  · rename_i fault found
    rw [found]
  · rename_i reached found
    rw [found]
  · rename_i reached lexeme found
    dsimp only
    exact found ▸ rfl

/-- The reader goes on after tokens it accepts. -/
theorem read_of_lexes {line last : Nat} {source rest : List Char} {tokens : List Token}
    (lexes : Lexes line source tokens last rest) :
    ∀ {partialRead longer : Partial}, partialRead.pushAll tokens = .ok longer →
      partialRead.read line source = longer.read last rest := by
  induction lexes with
  | done line source =>
    intro partialRead longer pushed
    cases pushed
    rfl
  | @token line reached last source rest lexeme tokens found more ih =>
    intro partialRead longer pushed
    cases step : partialRead.push lexeme.token with
    | error reason =>
      unfold pushAll at pushed
      rw [List.foldlM_cons, step] at pushed
      cases pushed
    | ok next =>
      rw [pushAll_cons_of_ok step] at pushed
      rw [read_eq, found]
      dsimp only
      rw [step]
      exact ih pushed

/-- The reader ends where no token is left. -/
theorem read_of_end {line reached : Nat} {source : List Char} (partialRead : Partial)
    (ended : next? line source = .ok (reached, none)) :
    partialRead.read line source =
      partialRead.finish.mapError fun reason => ⟨reached, reason⟩ := by
  rw [read_eq, ended]

/-- **What the reader gives is made of the tokens of the source.** -/
theorem lexes_of_read {partialRead : Partial} {line : Nat} {source : List Char}
    {document : Document} (read : partialRead.read line source = .ok document) :
    ∃ tokens last rest reached, Lexes line source tokens last rest ∧
      next? last rest = .ok (reached, none) ∧
      partialRead.tokens ++ tokens = flatten document := by
  fun_induction Partial.read partialRead line source with
  | case1 partialRead line source fault found => cases read
  | case2 partialRead line source reached found =>
    refine ⟨[], line, source, reached, .done _ _, found, ?_⟩
    rw [List.append_nil]
    exact finish_tokens (Fallible.mapError_eq_ok_iff.mp read)
  | case3 partialRead line source reached lexeme found _ reason refused => cases read
  | case4 partialRead line source reached lexeme found _ longer pushed ih =>
    obtain ⟨tokens, last, rest, final, lexes, ended, same⟩ := ih read
    refine ⟨lexeme.token :: tokens, last, rest, final, .token found lexes, ended, ?_⟩
    rw [← same, push_tokens pushed, List.append_assoc]
    rfl

end Partial

/-- **A source that is read consists of the tokens of its document.** -/
theorem parse_tokens {source : List Char} {document : Document}
    (parsed : parse source = .ok document) : HasTokens source (flatten document) := by
  obtain ⟨tokens, last, rest, reached, lexes, ended, same⟩ := Partial.lexes_of_read parsed
  obtain rfl : tokens = flatten document := same
  exact ⟨last, rest, reached, lexes, ended⟩

/-- **A source that consists of the tokens of a document is read as the document**, unless its lists
are nested too deeply. -/
theorem parse_of_tokens {source : List Char} {document : Document}
    (shallow : nesting document ≤ depthLimit) (written : HasTokens source (flatten document)) :
    parse source = .ok document := by
  obtain ⟨last, rest, reached, lexes, ended⟩ := written
  have pushed := Partial.pushAll_flatten document [] [] (by simpa using shallow)
  have finished : (⟨[], document.reverse, none⟩ : Partial).finish = .ok document :=
    congrArg Except.ok (List.reverse_reverse document)
  unfold parse
  rw [show Partial.empty = ⟨[], [], none⟩ from rfl, Partial.read_of_lexes lexes pushed,
    Partial.read_of_end _ ended, List.append_nil, finished]
  rfl

end ApkFeatures.Gml
