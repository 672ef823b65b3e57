/-
**Reading lists by descending into them.**

The lexer goes forward: it takes at least one character for a token, and the gap before it is white
space and comments. A reader that calls itself for every list among the entries of another so comes
to an end, and the limit of the depth bounds how many of its calls are active at once. The reader of
documents, which keeps the open lists instead of calling itself, gives the same answers.

* `next?_forward`, `next?_comment` — what the lexer passes and what it takes.
* `CallsList`, `ReadsEntries` — a call of the reader of lists, and the loop over the entries: what
  they do, one thing after the other, and what they answer.
* `CallsList.sparing` — how often a token is asked for.
* `exists_readsEntries` — every loop comes to an end.
* `CallsList.bracketed` — how many calls are active at once.
* `CallsList.read_eq`, `parse_of_callsList` — the reader of documents goes on with the answers of
  these calls.
* `parse_bounded` — the lexer and the reader of lists on any source.
-/
import ApkFeatures.Proofs.Gml.Position

namespace ApkFeatures.Gml

open ApkFeatures.Text

/-! ### The lexer goes forward -/

/-- **The token that some characters make**, all of them. -/
inductive Token.IsMadeOf : Token → List Char → Prop where
  | opening : IsMadeOf .opening ['[']
  | closing : IsMadeOf .closing [']']
  | text {text : List Char} (unquoted : '"' ∉ text) :
      IsMadeOf (.text (String.ofList (unescape text))) ('"' :: (text ++ ['"']))
  | number {c : Char} {more : List Char} {token : Token} (begins : beginsNumber c = true)
      (goesOn : ∀ d ∈ more, continuesNumber d = true)
      (read : Token.ofNumber (c :: more) = .ok token) : IsMadeOf token (c :: more)
  | key {c : Char} {more : List Char} (begins : beginsKey c = true)
      (goesOn : ∀ d ∈ more, continuesKey d = true) :
      IsMadeOf (.key (String.ofList (c :: more))) (c :: more)

theorem Token.IsMadeOf.ne_nil {token : Token} {written : List Char}
    (made : token.IsMadeOf written) : written ≠ [] := by
  cases made <;> exact List.cons_ne_nil _ _

/-- A token is made of what is taken for it. -/
theorem Reads.exists_isMadeOf {line : Nat} {c : Char} {rest : List Char} {lexeme : Lexeme}
    (reads : Reads line c rest lexeme) :
    ∃ written, c :: rest = written ++ lexeme.rest ∧ lexeme.token.IsMadeOf written := by
  cases reads with
  | opening after => exact ⟨['['], rfl, .opening⟩
  | closing after => exact ⟨[']'], rfl, .closing⟩
  | text text after unquoted => exact ⟨'"' :: (text ++ ['"']), by simp, .text unquoted⟩
  | @number _ more after token begins longest read =>
    exact ⟨c :: more, rfl, .number begins longest.inside read⟩
  | @key _ more after begins longest => exact ⟨c :: more, rfl, .key begins longest.inside⟩

/-- **The lexer goes forward.** Behind a gap it takes at least one character for a token, and the
token is made of all it takes. -/
theorem exists_of_next? {line reached : Nat} {source : List Char} {lexeme : Lexeme}
    (found : next? line source = .ok (reached, some lexeme)) :
    ∃ gap written, source = gap ++ (written ++ lexeme.rest) ∧ Gap gap ∧ written ≠ [] ∧
      lexeme.token.IsMadeOf written := by
  obtain ⟨began, c, rest, skipped, reads, -⟩ := next?_eq_some_iff.mp found
  obtain ⟨gap, rfl, -, isGap, -⟩ := exists_skipsTo skipped
  obtain ⟨written, whole, made⟩ := reads.exists_isMadeOf
  exact ⟨gap, written, by rw [whole], isGap, made.ne_nil, made⟩

theorem Gap.append {first second : List Char} (gap : Gap first) (more : Gap second) :
    Gap (first ++ second) := by
  induction gap with
  | nil => exact more
  | blank blank _ ih => exact .blank blank ih
  | @comment body gap line _ ih =>
    rw [List.cons_append, List.append_assoc, List.cons_append]
    exact .comment line ih

/-- **What the lexer comes to anywhere in a source**: a malformed token behind a gap, the end of the
source behind a gap, or a token. -/
theorem next?_forward (line : Nat) (left : List Char) :
    (∃ gap text within fault, left = gap ++ text ∧ Gap gap ∧
      Malformed text fault.reason within ∧ next? line left = .error fault) ∨
    (∃ reached, Gap (left ++ ['\n']) ∧ next? line left = .ok (reached, none)) ∨
    ∃ gap written reached lexeme, left = gap ++ (written ++ lexeme.rest) ∧ Gap gap ∧
      written ≠ [] ∧ lexeme.token.IsMadeOf written ∧
      next? line left = .ok (reached, some lexeme) := by
  rcases found : next? line left with fault | ⟨reached, lexeme?⟩
  · obtain ⟨gap, text, within, whole, isGap, bad, -⟩ := next?_eq_error_iff.mp found
    exact .inl ⟨gap, text, within, fault, whole, isGap, bad, rfl⟩
  cases lexeme? with
  | none => exact .inr (.inl ⟨reached, (next?_eq_none_iff.mp found).1, rfl⟩)
  | some lexeme =>
    obtain ⟨gap, written, whole, isGap, taken, made⟩ := exists_of_next? found
    exact .inr (.inr ⟨gap, written, reached, lexeme, whole, isGap, taken, made, rfl⟩)

/-- A comment ends at the end of the source, also without a newline. -/
theorem next?_comment {gap body : List Char} (isGap : Gap gap) (oneLine : '\n' ∉ body)
    (line : Nat) : next? line (gap ++ '#' :: body) = .ok (line + gap.count '\n', none) := by
  refine next?_eq_none_iff.mpr ⟨?_, ?_⟩
  · rw [List.append_assoc]
    exact isGap.append (.comment oneLine .nil)
  · rw [List.count_append, List.count_cons_of_ne (by decide), List.count_eq_zero.mpr oneLine,
      Nat.add_zero]

/-- No more tokens can be taken than there are characters. -/
theorem Lexes.length_le {line last : Nat} {source rest : List Char} {tokens : List Token}
    (lexes : Lexes line source tokens last rest) :
    tokens.length + rest.length ≤ source.length := by
  induction lexes with
  | done line source => exact Nat.le_of_eq (Nat.zero_add _)
  | @token line reached last source rest lexeme tokens found _ ih =>
    have shorter := next?_length_lt found
    rw [List.length_cons]
    omega

/-! ### The reader of lists -/

/-- What the reader of lists comes to when it has asked for the next entry of a list. -/
inductive Turn where
  /-- The list has ended, on a line and before some characters. -/
  | ended (line : Nat) (rest : List Char)
  /-- There is a fault. -/
  | failed (fault : Fault)
  /-- There is an entry. -/
  | entry (key : String) (value : Value) (line : Nat) (rest : List Char)
  /-- The list of a key begins. -/
  | opened (key : String) (line : Nat) (rest : List Char)

/-- Asks for the value of a key. -/
def valueTurn (key : String) (line : Nat) (source : List Char) : Turn :=
  match next? line source with
  | .error fault => .failed fault
  | .ok (reached, none) => .failed ⟨reached, .missingValue key⟩
  | .ok (reached, some lexeme) =>
    match lexeme.token with
    | .int value => .entry key (.int value) reached lexeme.rest
    | .real value => .entry key (.real value) reached lexeme.rest
    | .text value => .entry key (.text value) reached lexeme.rest
    | .opening => .opened key reached lexeme.rest
    | found => .failed ⟨reached, .expectedValue key found⟩

/-- Asks for a key, and for its value if there is one: how often it asks, and what it comes to. The
document itself ends with the file, every other list with a bracket. -/
def turn (depth line : Nat) (source : List Char) : Nat × Turn :=
  match next? line source with
  | .error fault => (1, .failed fault)
  | .ok (reached, none) =>
    (1, if depth = 0 then .ended reached [] else .failed ⟨reached, .unclosedList⟩)
  | .ok (reached, some lexeme) =>
    match lexeme.token with
    | .key key => (2, valueTurn key reached lexeme.rest)
    | .closing =>
      (1, if depth = 0 then .failed ⟨reached, .expectedKey .closing⟩
        else .ended reached lexeme.rest)
    | found => (1, .failed ⟨reached, .expectedKey found⟩)

/-- What the reader of lists does. -/
inductive Event where
  /-- It is called. -/
  | call
  /-- It asks the lexer for a token. -/
  | request
  /-- It returns to where it was called. -/
  | leave
deriving DecidableEq

/-- What the reader of lists answers: the entries, with the line behind them and what follows, or a
fault. -/
abbrev Answer := Except Fault (List Entry × Nat × List Char)

mutual

/-- **A call of the reader of lists**, at a depth: what it does, one thing after the other, and its
answer. -/
inductive CallsList : Nat → Nat → List Char → List Event → Answer → Prop where
  | tooDeep {depth : Nat} (line : Nat) (source : List Char) (deep : depthLimit < depth) :
      CallsList depth line source [.call, .leave] (.error ⟨line, .tooDeep⟩)
  | reads {depth line : Nat} {source : List Char} {events : List Event} {answer : Answer}
      (room : depth ≤ depthLimit) (loop : ReadsEntries depth line source [] events answer) :
      CallsList depth line source (.call :: (events ++ [.leave])) answer

/-- **The loop of such a call**, behind entries that have been read, the last one first. A list
among the entries is read by another call, one level deeper. -/
inductive ReadsEntries : Nat → Nat → List Char → List Entry → List Event → Answer → Prop where
  | ended {depth line asked reached : Nat} {source rest : List Char} (entries : List Entry)
      (turned : turn depth line source = (asked, .ended reached rest)) :
      ReadsEntries depth line source entries (List.replicate asked .request)
        (.ok (entries.reverse, reached, rest))
  | failed {depth line asked : Nat} {source : List Char} {fault : Fault} (entries : List Entry)
      (turned : turn depth line source = (asked, .failed fault)) :
      ReadsEntries depth line source entries (List.replicate asked .request) (.error fault)
  | entry {depth line asked reached : Nat} {source rest : List Char} {entries : List Entry}
      {key : String} {value : Value} {events : List Event} {answer : Answer}
      (turned : turn depth line source = (asked, .entry key value reached rest))
      (more : ReadsEntries depth reached rest ((key, value) :: entries) events answer) :
      ReadsEntries depth line source entries (List.replicate asked .request ++ events) answer
  | nested {depth line asked reached behind : Nat} {source rest left : List Char}
      {entries list : List Entry} {key : String} {called events : List Event} {answer : Answer}
      (turned : turn depth line source = (asked, .opened key reached rest))
      (inner : CallsList (depth + 1) reached rest called (.ok (list, behind, left)))
      (more : ReadsEntries depth behind left ((key, .list list) :: entries) events answer) :
      ReadsEntries depth line source entries
        (List.replicate asked .request ++ (called ++ events)) answer
  | lost {depth line asked reached : Nat} {source rest : List Char} {key : String}
      {called : List Event} {fault : Fault} (entries : List Entry)
      (turned : turn depth line source = (asked, .opened key reached rest))
      (inner : CallsList (depth + 1) reached rest called (.error fault)) :
      ReadsEntries depth line source entries (List.replicate asked .request ++ called)
        (.error fault)

end

/-! ### Requests -/

/-- What follows, unless there is a fault. -/
def Turn.rest? : Turn → Option (List Char)
  | ended _ rest => some rest
  | failed _ => none
  | entry _ _ _ rest => some rest
  | opened _ _ rest => some rest

/-- The list has ended. -/
def Turn.ends : Turn → Bool
  | ended _ _ => true
  | _ => false

/-- A value takes a character at least. -/
theorem valueTurn_rest {key : String} {line : Nat} {source rest : List Char}
    (given : (valueTurn key line source).rest? = some rest) : rest.length < source.length := by
  rw [valueTurn] at given
  rcases found : next? line source with fault | ⟨reached, lexeme?⟩
  · rw [found] at given
    cases given
  rw [found] at given
  cases lexeme? with
  | none => cases given
  | some lexeme =>
    have shorter := next?_length_lt found
    obtain ⟨token, last, after⟩ := lexeme
    cases token with
    | int value => cases given; exact shorter
    | real value => cases given; exact shorter
    | text value => cases given; exact shorter
    | opening => cases given; exact shorter
    | key name => cases given
    | closing => cases given

section Turn

variable {depth line asked : Nat} {source : List Char} {result : Turn}
  (turned : turn depth line source = (asked, result))

include turned

/-- The lexer is asked for a key, and for a value only behind a key. -/
theorem asked_bounds : 0 < asked ∧ asked ≤ source.length + 1 := by
  unfold turn at turned
  split at turned
  · cases turned; omega
  · cases turned; omega
  · rename_i reached lexeme found
    have shorter := next?_length_lt found
    split at turned <;> cases turned <;> omega

/-- **A turn takes a character for every request**, unless it ends the document. -/
theorem turn_rest {rest : List Char} (given : result.rest? = some rest) :
    asked + rest.length ≤ source.length ∨ depth = 0 ∧ result.ends = true := by
  unfold turn at turned
  split at turned
  · cases turned
    cases given
  · rename_i reached found
    cases turned
    split at given
    · rename_i outermost
      rw [if_pos outermost]
      exact .inr ⟨outermost, rfl⟩
    · cases given
  · rename_i reached lexeme found
    have shorter := next?_length_lt found
    split at turned
    · cases turned
      have more := valueTurn_rest given
      exact .inl (by omega)
    · cases turned
      split at given
      · cases given
      · cases given
        exact .inl (by omega)
    · cases turned
      cases given

/-- A turn behind which the loop goes on takes a character for every request. -/
theorem turn_took {rest : List Char} (given : result.rest? = some rest)
    (goesOn : result.ends = false) :
    (List.replicate asked Event.request).count .request + rest.length ≤ source.length := by
  rw [List.count_replicate_self]
  rcases turn_rest turned given with took | ⟨-, ends⟩
  · exact took
  · cases goesOn.symm.trans ends

/-- So the loop goes on with less. -/
theorem turn_length_lt {rest : List Char} (given : result.rest? = some rest)
    (goesOn : result.ends = false) : rest.length < source.length := by
  have took := turn_took turned given goesOn
  have positive := (asked_bounds turned).1
  rw [List.count_replicate_self] at took
  omega

end Turn

/-- **There is a request for every character that is taken, at most**, and one more if the file ends
or there is a fault. -/
structure Sparing (depth : Nat) (source : List Char) (events : List Event) (answer : Answer) :
    Prop where
  /-- So many requests are made in any case. -/
  asked : events.count .request ≤ source.length + 1
  /-- A nested list that is read ends with a bracket, so every request has taken a character. -/
  taken : 0 < depth → ∀ list behind left, answer = .ok (list, behind, left) →
    events.count .request + left.length ≤ source.length

/-- It stays so behind requests that have taken characters. -/
theorem Sparing.behind {depth : Nat} {source rest : List Char} {front events : List Event}
    {answer : Answer} (more : Sparing depth rest events answer)
    (took : front.count .request + rest.length ≤ source.length) :
    Sparing depth source (front ++ events) answer := by
  have asked := more.asked
  refine ⟨?_, fun nested list behind left same => ?_⟩
  · rw [List.count_append]
    omega
  · have taken := more.taken nested list behind left same
    rw [List.count_append]
    omega

/-- Without an answer it does not matter whose requests they are. -/
theorem Sparing.of_error {depth other : Nat} {source : List Char} {events : List Event}
    {fault : Fault} (sparing : Sparing depth source events (.error fault)) :
    Sparing other source events (.error fault) :=
  ⟨sparing.asked, fun _ _ _ _ same => by cases same⟩

mutual

theorem CallsList.sparing {depth line : Nat} {source : List Char} {events : List Event}
    {answer : Answer} :
    CallsList depth line source events answer → Sparing depth source events answer
  | .tooDeep _ _ _ => ⟨Nat.zero_le _, fun _ _ _ _ same => by cases same⟩
  | @CallsList.reads _ _ _ events _ _ loop => by
    have counted : (Event.call :: (events ++ [.leave])).count .request = events.count .request := by
      rw [List.count_cons_of_ne (by decide), List.count_append]
      rfl
    have inside := loop.sparing
    exact ⟨counted ▸ inside.asked, fun nested list behind left same =>
      counted ▸ inside.taken nested list behind left same⟩

theorem ReadsEntries.sparing {depth line : Nat} {source : List Char} {entries : List Entry}
    {events : List Event} {answer : Answer} :
    ReadsEntries depth line source entries events answer → Sparing depth source events answer
  | .ended _ turned => by
    refine ⟨?_, fun nested list behind left same => ?_⟩
    · rw [List.count_replicate_self]
      exact (asked_bounds turned).2
    · cases same
      rw [List.count_replicate_self]
      rcases turn_rest turned rfl with took | ⟨outermost, -⟩
      · exact took
      · omega
  | .failed _ turned => by
    refine ⟨?_, fun _ _ _ _ same => by cases same⟩
    rw [List.count_replicate_self]
    exact (asked_bounds turned).2
  | .entry turned more => more.sparing.behind (turn_took turned rfl rfl)
  | .nested turned inner more => by
    -- a nested list ends with a bracket, so it takes a character for each of its requests
    have list := more.sparing.behind (inner.sparing.taken (Nat.succ_pos _) _ _ _ rfl)
    exact list.behind (turn_took turned rfl rfl)
  | .lost _ turned inner => inner.sparing.of_error.behind (turn_took turned rfl rfl)

end

/-! ### Termination -/

/-- A call comes to an end if its loop does. -/
theorem exists_callsList {depth line : Nat} {source : List Char}
    (loops : ∃ events answer, ReadsEntries depth line source [] events answer) :
    ∃ events answer, CallsList depth line source events answer := by
  rcases Nat.lt_or_ge depthLimit depth with deep | room
  · exact ⟨_, _, .tooDeep line source deep⟩
  · obtain ⟨events, answer, loop⟩ := loops
    exact ⟨_, _, .reads room loop⟩

/-- **Every loop comes to an end**: a turn takes characters, and so does the list that is read in
it. -/
theorem exists_readsEntries (depth line : Nat) (source : List Char) (entries : List Entry) :
    ∃ events answer, ReadsEntries depth line source entries events answer := by
  induction size : source.length using Nat.strongRecOn generalizing depth line source entries with
  | ind size ih =>
  subst size
  obtain ⟨asked, result, turned⟩ : ∃ asked result, turn depth line source = (asked, result) :=
    ⟨_, _, rfl⟩
  cases result with
  | ended reached rest => exact ⟨_, _, .ended entries turned⟩
  | failed fault => exact ⟨_, _, .failed entries turned⟩
  | entry key value reached rest =>
    obtain ⟨events, answer, more⟩ := ih rest.length (turn_length_lt turned rfl rfl) depth reached
      rest ((key, value) :: entries) rfl
    exact ⟨_, _, .entry turned more⟩
  | opened key reached rest =>
    have less := turn_length_lt turned rfl rfl
    obtain ⟨called, answer, inner⟩ := exists_callsList (ih rest.length less (depth + 1) reached
      rest [] rfl)
    cases answer with
    | error fault => exact ⟨_, _, .lost entries turned inner⟩
    | ok read =>
      obtain ⟨list, behind, left⟩ := read
      -- the call leaves no more than it was given, so the loop goes on with less here, too
      have taken := inner.sparing.taken (Nat.succ_pos _) list behind left rfl
      obtain ⟨events, answer, more⟩ := ih left.length (by omega) depth behind left
        ((key, .list list) :: entries) rfl
      exact ⟨_, _, .nested turned inner more⟩

/-! ### Levels -/

/-- **At most so many calls are active at once**, whenever one looks, and none is in the end. -/
structure Bracketed (levels : Nat) (events : List Event) : Prop where
  /-- Every call returns. -/
  returns : events.count .call = events.count .leave
  /-- A call is active from its beginning to its return. -/
  active : ∀ before, before <+: events → before.count .call ≤ before.count .leave + levels

namespace Bracketed

variable {levels : Nat} {first second events : List Event}

theorem requests (levels asked : Nat) : Bracketed levels (List.replicate asked .request) := by
  have none : ∀ before, before <+: List.replicate asked Event.request →
      before.count .call = 0 := fun before front =>
    List.count_eq_zero.mpr fun member =>
      by cases (List.mem_replicate.mp (front.subset member)).2
  refine ⟨?_, fun before front => ?_⟩
  · rw [none _ (List.prefix_refl _), List.count_replicate, if_neg (by decide)]
  · rw [none before front]
    exact Nat.zero_le _

theorem append (front : Bracketed levels first) (back : Bracketed levels second) :
    Bracketed levels (first ++ second) := by
  refine ⟨?_, fun before start => ?_⟩
  · rw [List.count_append, List.count_append, front.returns, back.returns]
  · rcases List.prefix_or_prefix_of_prefix start (List.prefix_append first second) with
      within | ⟨part, rfl⟩
    · exact front.active before within
    · have later := back.active part ((List.prefix_append_right_inj first).mp start)
      rw [List.count_append, List.count_append, front.returns]
      omega

/-- A call is one level around what happens in it. -/
theorem call (inside : Bracketed levels events) :
    Bracketed (levels + 1) (.call :: (events ++ [.leave])) := by
  have called : ∀ part, (Event.call :: part).count .call = part.count .call + 1 :=
    fun part => List.count_cons_self
  have kept : ∀ part, (Event.call :: part).count .leave = part.count .leave :=
    fun part => List.count_cons_of_ne (by decide)
  have ends : (events ++ [Event.leave]).count .call = events.count .call :=
    List.count_append.trans (Nat.add_zero _)
  have left : (events ++ [Event.leave]).count .leave = events.count .leave + 1 := List.count_append
  have returns := inside.returns
  refine ⟨by rw [called, kept, ends, left]; omega, fun before start => ?_⟩
  rcases List.prefix_cons_iff.mp start with rfl | ⟨part, rfl, within⟩
  · exact Nat.zero_le _
  rw [called, kept]
  rcases List.prefix_concat_iff.mp within with rfl | inner
  · rw [ends, left]
    omega
  · have active := inside.active part inner
    omega

end Bracketed

-- The induction is on the run; a level deeper there is one level less that may be added.
mutual

/-- **The limit of the depth bounds the calls**: the deepest one that can be made is refused. -/
theorem CallsList.bracketed {depth line levels : Nat} {source : List Char} {events : List Event}
    {answer : Answer} (above : depth + levels = depthLimit + 1) :
    CallsList depth line source events answer → Bracketed (levels + 1) events
  | .tooDeep _ _ _ => (Bracketed.requests levels 0).call -- nothing happens in it
  | .reads room loop => by
    obtain ⟨inner, rfl⟩ : ∃ inner, levels = inner + 1 := ⟨levels - 1, by omega⟩
    exact (loop.bracketed (by omega)).call

theorem ReadsEntries.bracketed {depth line levels : Nat} {source : List Char}
    {entries : List Entry} {events : List Event} {answer : Answer}
    (above : depth + levels = depthLimit) :
    ReadsEntries depth line source entries events answer → Bracketed (levels + 1) events
  | .ended _ _ => .requests _ _
  | .failed _ _ => .requests _ _
  | .entry _ more => (Bracketed.requests _ _).append (more.bracketed above)
  | .nested _ inner more =>
    (Bracketed.requests _ _).append ((inner.bracketed (by omega)).append (more.bracketed above))
  | .lost _ _ inner => (Bracketed.requests _ _).append (inner.bracketed (by omega))

end

/-! ### The same answer as the reader's -/

/-- What the reader of documents does with the answer to its innermost open list. -/
def goOn : List (List Entry × String) → Answer → Except Fault Document
  | _, .error fault => .error fault
  | [], .ok (list, _, _) => .ok list
  | (before, key) :: outer, .ok (list, reached, rest) =>
    (⟨outer, (key, .list list) :: before, none⟩ : Partial).read reached rest

/-- What it does with a list that begins. -/
def descend (outer : List (List Entry × String)) (line : Nat) (source : List Char) :
    Except Fault Document :=
  if depthLimit < outer.length then .error ⟨line, .tooDeep⟩
  else (⟨outer, [], none⟩ : Partial).read line source

/-- What it does with a turn. -/
def follow (outer : List (List Entry × String)) (entries : List Entry) :
    Turn → Except Fault Document
  | .ended reached rest => goOn outer (.ok (entries.reverse, reached, rest))
  | .failed fault => .error fault
  | .entry key value reached rest =>
    (⟨outer, (key, value) :: entries, none⟩ : Partial).read reached rest
  | .opened key reached rest => descend ((entries, key) :: outer) reached rest

/-- The reader asks for a value as the reader of lists does. -/
theorem read_valueTurn (outer : List (List Entry × String)) (entries : List Entry) (key : String)
    (line : Nat) (source : List Char) :
    (⟨outer, entries, some key⟩ : Partial).read line source =
      follow outer entries (valueTurn key line source) := by
  rw [Partial.read_eq, valueTurn]
  rcases next? line source with fault | ⟨reached, lexeme?⟩
  · rfl
  cases lexeme? with
  | none => rfl
  | some lexeme =>
    obtain ⟨token, last, rest⟩ := lexeme
    cases token with
    | opening =>
      have limit : depthLimit < ((entries, key) :: outer).length ↔ ¬ outer.length < depthLimit := by
        rw [List.length_cons]
        omega
      dsimp only [Partial.push, follow, descend]
      by_cases room : outer.length < depthLimit
      · rw [if_pos room, if_neg fun deep => limit.mp deep room]
      · rw [if_neg room, if_pos (limit.mpr room)]
    | key name => rfl
    | int value => rfl
    | real value => rfl
    | text value => rfl
    | closing => rfl

/-- **The reader takes turns as the reader of lists does.** -/
theorem read_turn (outer : List (List Entry × String)) (entries : List Entry) (line : Nat)
    (source : List Char) :
    (⟨outer, entries, none⟩ : Partial).read line source =
      follow outer entries (turn outer.length line source).2 := by
  rw [Partial.read_eq, turn]
  rcases next? line source with fault | ⟨reached, lexeme?⟩
  · rfl
  cases lexeme? with
  | none => cases outer <;> rfl
  | some lexeme =>
    obtain ⟨token, last, rest⟩ := lexeme
    cases token with
    | key name => exact read_valueTurn outer entries name reached rest
    | closing => cases outer <;> rfl
    | opening => rfl
    | int value => rfl
    | real value => rfl
    | text value => rfl

mutual

/-- **The reader reads a list as a call of the reader of lists does**, and goes on with its
answer. -/
theorem CallsList.read_eq {depth line : Nat} {source : List Char} {events : List Event}
    {answer : Answer} (outer : List (List Entry × String)) (level : outer.length = depth) :
    CallsList depth line source events answer → descend outer line source = goOn outer answer
  | .tooDeep _ _ deep => by rw [descend, if_pos (level ▸ deep), goOn]
  | .reads room loop => by
    rw [descend, if_neg (Nat.not_lt.mpr (level ▸ room))]
    exact loop.read_eq outer level

theorem ReadsEntries.read_eq {depth line : Nat} {source : List Char} {entries : List Entry}
    {events : List Event} {answer : Answer} (outer : List (List Entry × String))
    (level : outer.length = depth) :
    ReadsEntries depth line source entries events answer →
      (⟨outer, entries, none⟩ : Partial).read line source = goOn outer answer
  | .ended _ turned => by rw [read_turn, level, turned, follow]
  | .failed _ turned => by rw [read_turn, level, turned, follow, goOn]
  | .entry turned more => by
    rw [read_turn, level, turned, follow]
    exact more.read_eq outer level
  | .nested turned inner more => by
    have list := fun key => inner.read_eq ((entries, key) :: outer) (congrArg Nat.succ level)
    rw [read_turn, level, turned, follow, list, goOn]
    exact more.read_eq outer level
  | .lost _ turned inner => by
    have list := fun key => inner.read_eq ((entries, key) :: outer) (congrArg Nat.succ level)
    rw [read_turn, level, turned, follow, list, goOn, goOn]

end

/-- **The reader gives the answer of the call for the document.** -/
theorem parse_of_callsList {source : List Char} {events : List Event} {answer : Answer}
    (run : CallsList 0 1 source events answer) : parse source = answer.map Prod.fst := by
  have same : descend [] 1 source = goOn [] answer := run.read_eq [] rfl
  rw [show parse source = descend [] 1 source from rfl, same]
  cases answer <;> rfl

/-! ### The whole file -/

/-- **The lexer goes forward, and so the reader of lists is bounded.** At every place of a source
the lexer fails at a malformed token, or nothing but a gap is left, or it takes at least one
character behind a gap, and what it takes makes the token; a comment ends with the source also
without a newline. So no more tokens can be taken than there are characters, and reading lists by
descending into them comes to an end on every source, with the answer of the reader: after at most
one more request than there are characters, and with no more calls active at once than that for the
document, those for lists within the limit of the depth, and one that is refused. -/
theorem parse_bounded (source : List Char) :
    (∀ line left,
      (∃ gap text within fault, left = gap ++ text ∧ Gap gap ∧
        Malformed text fault.reason within ∧ next? line left = .error fault) ∨
      (∃ reached, Gap (left ++ ['\n']) ∧ next? line left = .ok (reached, none)) ∨
      ∃ gap written reached lexeme, left = gap ++ (written ++ lexeme.rest) ∧ Gap gap ∧
        written ≠ [] ∧ lexeme.token.IsMadeOf written ∧
        next? line left = .ok (reached, some lexeme)) ∧
    (∀ line gap body, Gap gap → '\n' ∉ body →
      next? line (gap ++ '#' :: body) = .ok (line + gap.count '\n', none)) ∧
    (∀ tokens last rest, Lexes 1 source tokens last rest →
      tokens.length + rest.length ≤ source.length) ∧
    (∃ events answer, CallsList 0 1 source events answer) ∧
    ∀ events answer, CallsList 0 1 source events answer →
      parse source = answer.map Prod.fst ∧
      events.count .request ≤ source.length + 1 ∧
      ∀ before, before <+: events →
        before.count .call ≤ before.count .leave + (depthLimit + 2) := by
  have runs := exists_callsList (exists_readsEntries 0 1 source [])
  refine ⟨next?_forward, fun line gap body isGap oneLine => next?_comment isGap oneLine line,
    fun tokens last rest lexes => lexes.length_le, runs, fun events answer run => ⟨?_, ?_, ?_⟩⟩
  · exact parse_of_callsList run
  · exact run.sparing.asked
  · exact (run.bracketed (Nat.zero_add _)).active

/-- A list in a document: a call for each, a request for every token, and one more at the end. -/
theorem parse_bounded_sample :
    ∃ events, CallsList 0 1 "a[b 1]".toList events
        (.ok ([("a", .list [("b", .int 1)])], 1, [])) ∧
      events = [.call, .request, .request, .call, .request, .request, .request, .leave, .request,
        .leave] ∧
      parse "a[b 1]".toList = .ok [("a", .list [("b", .int 1)])] := by
  have inner : ReadsEntries 1 1 "b 1]".toList [] _ (.ok ([("b", .int 1)], 1, [])) :=
    .entry (show turn 1 1 "b 1]".toList = (2, .entry "b" (.int 1) 1 "]".toList) from rfl)
      (.ended _ (show turn 1 1 "]".toList = (1, .ended 1 []) from rfl))
  have run : CallsList 0 1 "a[b 1]".toList _ (.ok ([("a", .list [("b", .int 1)])], 1, [])) :=
    .reads (by decide) (.nested
      (show turn 0 1 "a[b 1]".toList = (2, .opened "a" 1 "b 1]".toList) from rfl)
      (.reads (by decide) inner) (.ended _ (show turn 0 1 [] = (1, .ended 1 []) from rfl)))
  obtain ⟨_, _, _, _, bounded⟩ := parse_bounded "a[b 1]".toList
  exact ⟨_, run, rfl, (bounded _ _ run).1⟩

end ApkFeatures.Gml
