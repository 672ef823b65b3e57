/-
**Which files are documents.**

A file is a document if its tokens are those of a tree whose lists are nested no deeper than the
limit, and the reader gives that tree. So tokens that are those of no tree are refused, and they are
refused wherever they stand: what comes before them and after them makes no difference.

* `Partial.pushes_of_push` — all that the reader does with one token.
* `Partial.fits_of_push`, `Partial.agrees_of_push` — what a token preserves: no list is nested too
  deeply, and the brackets read so far tell how many lists are open.
* `parse_spec` — the documents, and the tokens that no document has.
-/
import Mathlib.Data.List.Induction
import ApkFeatures.Proofs.Gml.Lexing

namespace ApkFeatures.Gml

/-! ### Nesting -/

@[simp]
theorem nesting_nil : nesting [] = 0 := by
  unfold nesting
  rfl

@[simp]
theorem nesting_cons (key : String) (value : Value) (rest : List Entry) :
    nesting ((key, value) :: rest) = max value.depth (nesting rest) := by
  rw [nesting]

@[simp]
theorem nesting_append (first second : List Entry) :
    nesting (first ++ second) = max (nesting first) (nesting second) := by
  induction first with
  | nil => simp
  | cons entry rest ih =>
    obtain ⟨key, value⟩ := entry
    rw [List.cons_append, nesting_cons, nesting_cons, ih, Nat.max_assoc]

@[simp]
theorem nesting_reverse (entries : List Entry) : nesting entries.reverse = nesting entries := by
  induction entries with
  | nil => rfl
  | cons entry rest ih =>
    obtain ⟨key, value⟩ := entry
    rw [List.reverse_cons, nesting_append, ih, nesting_cons, nesting_cons, nesting_nil,
      Nat.max_zero, Nat.max_comm]

theorem Value.depth_list (entries : List Entry) :
    (Value.list entries).depth = nesting entries + 1 := by
  rw [depth]

theorem Value.depth_of_single {value : Value} (single : value.list? = none) : value.depth = 0 := by
  cases value with
  | list entries => cases single
  | int number => unfold depth; rfl
  | real number => unfold depth; rfl
  | text content => unfold depth; rfl

/-! ### One token -/

namespace Partial

/-- **What the reader does with a token**: a key waits for its value, a number or a text ends the
entry of the key that waits, and a bracket opens the list of that key or closes the innermost
list. -/
inductive Pushes : Partial → Token → Partial → Prop where
  | key (outer : List (List Entry × String)) (entries : List Entry) (name : String) :
      Pushes ⟨outer, entries, none⟩ (.key name) ⟨outer, entries, some name⟩
  | value (outer : List (List Entry × String)) (entries : List Entry) (key : String) {value : Value}
      {token : Token} (single : value.list? = none) (written : value.tokens = [token]) :
      Pushes ⟨outer, entries, some key⟩ token ⟨outer, (key, value) :: entries, none⟩
  | opening {outer : List (List Entry × String)} (entries : List Entry) (key : String)
      (room : outer.length < depthLimit) :
      Pushes ⟨outer, entries, some key⟩ .opening ⟨(entries, key) :: outer, [], none⟩
  | closing (outer : List (List Entry × String)) (before entries : List Entry) (key : String) :
      Pushes ⟨(before, key) :: outer, entries, none⟩ .closing
        ⟨outer, (key, .list entries.reverse) :: before, none⟩

theorem pushes_of_push {partialRead longer : Partial} {token : Token}
    (pushed : partialRead.push token = .ok longer) : Pushes partialRead token longer := by
  obtain ⟨outer, entries, key?⟩ := partialRead
  cases key? with
  | none =>
    cases token with
    | key name =>
      cases pushed
      exact .key outer entries name
    | closing =>
      cases outer with
      | nil => cases pushed
      | cons list outer =>
        cases pushed
        exact .closing outer list.1 entries list.2
    | int value => cases pushed
    | real value => cases pushed
    | text value => cases pushed
    | opening => cases pushed
  | some key =>
    cases token with
    | int value =>
      cases pushed
      exact .value outer entries key rfl rfl
    | real value =>
      cases pushed
      exact .value outer entries key rfl rfl
    | text value =>
      cases pushed
      exact .value outer entries key rfl rfl
    | opening =>
      unfold push at pushed
      dsimp only at pushed
      split at pushed
      · rename_i room
        cases pushed
        exact .opening entries key room
      · cases pushed
    | key name => cases pushed
    | closing => cases pushed

/-! ### No list is nested too deeply -/

/-- The entries of every list that is open leave room for those around them. -/
def Fits : List (List Entry × String) → List Entry → Prop
  | [], entries => nesting entries ≤ depthLimit
  | (before, _) :: outer, entries =>
    outer.length + 1 + nesting entries ≤ depthLimit ∧ Fits outer before

theorem Fits.bound {outer : List (List Entry × String)} {entries : List Entry}
    (fits : Fits outer entries) : outer.length + nesting entries ≤ depthLimit := by
  cases outer with
  | nil =>
    have shallow : nesting entries ≤ depthLimit := fits
    rw [List.length_nil]
    omega
  | cons list outer => exact fits.1

/-- An entry may be added if its value fits as well. -/
theorem Fits.cons {outer : List (List Entry × String)} {entries : List Entry} {value : Value}
    (fits : Fits outer entries) (key : String) (room : outer.length + value.depth ≤ depthLimit) :
    Fits outer ((key, value) :: entries) := by
  have bound := fits.bound
  cases outer with
  | nil =>
    show nesting _ ≤ depthLimit
    rw [List.length_nil] at room bound
    rw [nesting_cons]
    omega
  | cons list outer =>
    refine ⟨?_, fits.2⟩
    rw [List.length_cons] at room bound
    rw [nesting_cons]
    omega

/-- **A token keeps the lists within the limit.** -/
theorem fits_of_push {partialRead longer : Partial} {token : Token}
    (fits : Fits partialRead.outer partialRead.entries)
    (pushed : partialRead.push token = .ok longer) : Fits longer.outer longer.entries := by
  cases pushes_of_push pushed with
  | key => exact fits
  | value outer entries key single =>
    refine fits.cons key ?_
    have bound := fits.bound
    rw [Value.depth_of_single single]
    omega
  | @opening outer entries key room =>
    refine ⟨?_, fits⟩
    rw [nesting_nil]
    omega
  | closing outer before entries key =>
    refine fits.2.cons key ?_
    have bound : outer.length + 1 + nesting entries ≤ depthLimit := fits.1
    rw [Value.depth_list, nesting_reverse]
    omega

/-- **A document that is read is not nested too deeply.** -/
theorem nesting_le_of_read {partialRead : Partial} {line : Nat} {source : List Char}
    {document : Document} (fits : Fits partialRead.outer partialRead.entries)
    (read : partialRead.read line source = .ok document) : nesting document ≤ depthLimit := by
  fun_induction Partial.read partialRead line source with
  | case1 partialRead line source fault found => cases read
  | case2 partialRead line source reached found =>
    obtain ⟨outer, entries, key?⟩ := partialRead
    have finished := Fallible.mapError_eq_ok_iff.mp read
    cases key? with
    | some key => cases finished
    | none =>
      cases outer with
      | cons list outer => cases finished
      | nil =>
        cases finished
        rw [nesting_reverse]
        exact fits
  | case3 partialRead line source reached lexeme found _ reason refused => cases read
  | case4 partialRead line source reached lexeme found _ longer pushed ih =>
    exact ih (fits_of_push fits pushed) read

end Partial

/-- **A file is a document exactly if its tokens are those of a tree that is not nested too
deeply.** -/
theorem parse_eq_ok_iff {source : List Char} {document : Document} :
    parse source = .ok document ↔
      HasTokens source (flatten document) ∧ nesting document ≤ depthLimit := by
  constructor
  · intro parsed
    have fits : Partial.Fits [] [] := Nat.zero_le _
    exact ⟨parse_tokens parsed, Partial.nesting_le_of_read fits parsed⟩
  · rintro ⟨written, shallow⟩
    exact parse_of_tokens shallow written

/-! ### Tokens that no document has -/

/-- A value begins with such a token. -/
def Token.beginsValue : Token → Bool
  | .int _ | .real _ | .text _ | .opening => true
  | .key _ | .closing => false

/-- **Tokens with which no document begins**: a value without a key before it, a key without a value
after it, a bracket that closes no list, and a list at level 65. -/
inductive Impossible : List Token → Prop where
  | valueWithoutKey {before : List Token} {token : Token} (isValue : token.beginsValue = true)
      (noKey : ∀ earlier name, before ≠ earlier ++ [.key name]) : Impossible (before ++ [token])
  | missingValue (before : List Token) (name : String) {token : Token}
      (noValue : token.beginsValue = false) : Impossible (before ++ [.key name, token])
  | unopened {tokens : List Token} (more : tokens.count .opening < tokens.count .closing) :
      Impossible tokens
  | tooDeep {tokens : List Token} (open65 : tokens.count .closing + 64 < tokens.count .opening) :
      Impossible tokens

/-- **Tokens with which no document ends**: a key without a value, and lists that are not all
closed. -/
inductive Unfinished : List Token → Prop where
  | missingValue (before : List Token) (name : String) : Unfinished (before ++ [.key name])
  | unclosed {tokens : List Token} (fewer : tokens.count .closing < tokens.count .opening) :
      Unfinished tokens

namespace Partial

/-- **What the tokens read so far tell of the reader**: how many lists are open, and whether a key
waits. -/
structure Agrees (tokens : List Token) (partialRead : Partial) : Prop where
  level : tokens.count .closing + partialRead.outer.length = tokens.count .opening
  room : partialRead.outer.length ≤ depthLimit
  waits : ∀ name, partialRead.key? = some name ↔ ∃ before, tokens = before ++ [.key name]

/-- Another token is the last one. -/
theorem ends_iff {tokens : List Token} {token : Token} {name : String} :
    (∃ before, tokens ++ [token] = before ++ [.key name]) ↔ token = .key name := by
  constructor
  · rintro ⟨before, same⟩
    exact List.singleton_inj.mp (List.append_inj' same rfl).2
  · rintro rfl
    exact ⟨tokens, rfl⟩

/-- **A token keeps the count.** -/
theorem agrees_of_push {partialRead longer : Partial} {tokens : List Token} {token : Token}
    (agrees : Agrees tokens partialRead) (pushed : partialRead.push token = .ok longer) :
    Agrees (tokens ++ [token]) longer := by
  have level := agrees.level
  have room := agrees.room
  cases pushes_of_push pushed with
  | key outer entries name =>
    refine ⟨by simpa using level, room, fun other => ?_⟩
    rw [ends_iff, Option.some_inj, Token.key.injEq]
  | @value outer entries key value _ single written =>
    -- the token of a value that is no list is no bracket and no key
    cases value with
    | list nested => cases single
    | int number =>
      cases written
      exact ⟨by simpa using level, room, fun other => by rw [ends_iff]; simp⟩
    | real number =>
      cases written
      exact ⟨by simpa using level, room, fun other => by rw [ends_iff]; simp⟩
    | text content =>
      cases written
      exact ⟨by simpa using level, room, fun other => by rw [ends_iff]; simp⟩
  | @opening outer entries key deeper =>
    refine ⟨?_, deeper, fun other => by rw [ends_iff]; simp⟩
    simp only [List.count_append, List.length_cons, List.count_singleton_self] at level ⊢
    rw [List.count_singleton, if_neg (by decide)]
    omega
  | closing outer before entries key =>
    rw [List.length_cons] at level room
    refine ⟨?_, Nat.le_of_succ_le room, fun other => by rw [ends_iff]; simp⟩
    simp only [List.count_append, List.count_singleton_self]
    rw [List.count_singleton, if_neg (by decide)]
    omega

/-- Tokens are read one part after the other. -/
theorem pushAll_append {partialRead longer : Partial} {first second : List Token}
    (pushed : partialRead.pushAll (first ++ second) = .ok longer) :
    ∃ between, partialRead.pushAll first = .ok between ∧ between.pushAll second = .ok longer := by
  unfold pushAll at pushed
  rw [List.foldlM_append] at pushed
  exact Fallible.bind_eq_ok_iff.mp pushed

theorem push_of_pushAll {partialRead longer : Partial} {token : Token}
    (pushed : partialRead.pushAll [token] = .ok longer) : partialRead.push token = .ok longer := by
  obtain ⟨next, step, rest⟩ := Fallible.bind_eq_ok_iff.mp pushed
  cases rest
  exact step

/-- **The count holds of all tokens that the reader takes.** -/
theorem agrees_of_pushAll (tokens : List Token) :
    ∀ {partialRead : Partial}, empty.pushAll tokens = .ok partialRead →
      Agrees tokens partialRead := by
  induction tokens using List.reverseRecOn with
  | nil =>
    intro partialRead pushed
    cases pushed
    refine ⟨rfl, Nat.zero_le _, fun name => ?_⟩
    simp [empty]
  | append_singleton tokens token ih =>
    intro partialRead pushed
    obtain ⟨before, first, last⟩ := pushAll_append pushed
    exact agrees_of_push (ih first) (push_of_pushAll last)

/-- **The reader takes no impossible tokens.** -/
theorem not_impossible_of_pushAll {tokens : List Token} {partialRead : Partial}
    (pushed : empty.pushAll tokens = .ok partialRead) : ¬ Impossible tokens := by
  intro impossible
  have agrees := agrees_of_pushAll tokens pushed
  cases impossible with
  | @valueWithoutKey before token isValue noKey =>
    obtain ⟨between, first, last⟩ := pushAll_append pushed
    have waits := (agrees_of_pushAll before first).waits
    have keyed : ∃ name, between.key? = some name := by
      cases pushes_of_push (push_of_pushAll last) with
      | key => cases isValue
      | value outer entries key => exact ⟨key, rfl⟩
      | opening entries key => exact ⟨key, rfl⟩
      | closing => cases isValue
    obtain ⟨name, key⟩ := keyed
    obtain ⟨earlier, same⟩ := (waits name).mp key
    exact noKey earlier name same
  | @missingValue before name token noValue =>
    rw [List.append_cons] at pushed
    obtain ⟨between, first, last⟩ := pushAll_append pushed
    have key : between.key? = some name :=
      ((agrees_of_pushAll _ first).waits name).mpr ⟨before, rfl⟩
    cases pushes_of_push (push_of_pushAll last) with
    | key => cases key
    | @value outer entries other value _ single written =>
      cases value with
      | list nested => cases single
      | int number => cases written; cases noValue
      | real number => cases written; cases noValue
      | text content => cases written; cases noValue
    | opening => cases noValue
    | closing => cases key
  | unopened more =>
    have level := agrees.level
    omega
  | tooDeep open65 =>
    have level := agrees.level
    have room : partialRead.outer.length ≤ 64 := agrees.room
    omega

end Partial

/-- **The reader takes all tokens of a document, and is then at its end.** -/
theorem pushAll_of_parse {source : List Char} {document : Document}
    (parsed : parse source = .ok document) :
    Partial.empty.pushAll (flatten document) = .ok ⟨[], document.reverse, none⟩ := by
  have shallow := (parse_eq_ok_iff.mp parsed).2
  have pushed := Partial.pushAll_flatten document [] [] (by simpa using shallow)
  rwa [List.append_nil] at pushed

/-- **No document begins with impossible tokens.** -/
theorem not_impossible_of_parse {source rest : List Char} {document : Document}
    {tokens : List Token} {line : Nat} (parsed : parse source = .ok document)
    (lexes : Lexes 1 source tokens line rest) : ¬ Impossible tokens := by
  obtain ⟨more, whole⟩ := (parse_tokens parsed).begins lexes
  have pushed := pushAll_of_parse parsed
  rw [← whole] at pushed
  obtain ⟨between, first, _⟩ := Partial.pushAll_append pushed
  exact Partial.not_impossible_of_pushAll first

/-- A source has its tokens in one way. -/
theorem HasTokens.unique {source : List Char} {tokens others : List Token}
    (written : HasTokens source tokens) (again : HasTokens source others) : tokens = others := by
  have forth : tokens <+: others := by
    obtain ⟨last, rest, _, lexes, _⟩ := written
    exact again.begins lexes
  have back : others <+: tokens := by
    obtain ⟨last, rest, _, lexes, _⟩ := again
    exact written.begins lexes
  exact forth.eq_of_length_le back.length_le

/-- **No document ends unfinished.** -/
theorem not_unfinished_of_parse {source : List Char} {document : Document} {tokens : List Token}
    (parsed : parse source = .ok document) (written : HasTokens source tokens) :
    ¬ Unfinished tokens := by
  intro unfinished
  have agrees := Partial.agrees_of_pushAll _ (pushAll_of_parse parsed)
  rw [(parse_tokens parsed).unique written] at agrees
  cases unfinished with
  | missingValue before name => cases (agrees.waits name).mpr ⟨before, rfl⟩
  | unclosed fewer =>
    have level : _ + 0 = _ := agrees.level
    omega

/-- **Which files are documents.** A file is read as a tree exactly if it consists of the tokens of
the tree and no list of the tree is nested deeper than 64. A file that begins with tokens that no
document begins with is refused, whatever follows them, and so is one that ends with tokens that no
document ends with. -/
theorem parse_spec (source : List Char) :
    (∀ document, parse source = .ok document ↔
      HasTokens source (flatten document) ∧ nesting document ≤ 64) ∧
    (∀ tokens line rest, Lexes 1 source tokens line rest → Impossible tokens →
      ∃ fault, parse source = .error fault) ∧
    (∀ tokens, HasTokens source tokens → Unfinished tokens →
      ∃ fault, parse source = .error fault) := by
  refine ⟨fun document => parse_eq_ok_iff, fun tokens line rest lexes impossible => ?_,
    fun tokens written unfinished => ?_⟩
  · cases parsed : parse source with
    | error fault => exact ⟨fault, rfl⟩
    | ok document => exact absurd impossible (not_impossible_of_parse parsed lexes)
  · cases parsed : parse source with
    | error fault => exact ⟨fault, rfl⟩
    | ok document => exact absurd unfinished (not_unfinished_of_parse parsed written)

/-- A nested list, a value without a key before a character that begins no token, and a list that is
not closed. -/
theorem parse_spec_sample :
    parse "a[b 1]".toList = .ok [("a", .list [("b", .int 1)])] ∧
      (∃ fault, parse "a 1 2 ?".toList = .error fault) ∧
        ∃ fault, parse "a[b 1".toList = .error fault := by
  have nested : Lexes 1 "a[b 1]".toList (flatten [("a", .list [("b", .int 1)])]) 1 [] :=
    .cons rfl <| .cons rfl <| .cons rfl <| .cons rfl <| .cons rfl <| .done 1 []
  have values : Lexes 1 "a 1 2 ?".toList [.key "a", .int 1, .int 2] 1 " ?".toList :=
    .cons rfl <| .cons rfl <| .cons rfl <| .done 1 _
  have impossible : Impossible [.key "a", .int 1, .int 2] := by
    refine @Impossible.valueWithoutKey [.key "a", .int 1] _ rfl fun earlier name same => ?_
    have last : [.key "a"] ++ [Token.int 1] = earlier ++ [.key name] := same
    cases (List.append_inj' last rfl).2
  have cut : Lexes 1 "a[b 1".toList [.key "a", .opening, .key "b", .int 1] 1 [] :=
    .cons rfl <| .cons rfl <| .cons rfl <| .cons rfl <| .done 1 []
  exact ⟨((parse_spec _).1 _).mpr ⟨⟨1, [], 1, nested, rfl⟩, by decide⟩,
    (parse_spec _).2.1 _ _ _ values impossible,
    (parse_spec _).2.2 _ ⟨1, [], 1, cut, rfl⟩ (.unclosed (by decide))⟩

end ApkFeatures.Gml
