/-
**Files behind each other.**

A file that stands behind another one, on a line of its own, is read as it is read alone: its
entries come behind those of the other, and its faults are reported as many lines later as the other
file has. The first file ends where its document does, whatever its last token is: the newline ends
a number, a key and a comment.

* `Partial.read_add` — where the reader begins to count lines only moves the line of a fault.
* `Partial.read_under` — entries that were read before only stand before the others.
* `parse_append_newline` — two files as one.
-/
import ApkFeatures.Proofs.Gml.Grammar
import ApkFeatures.Proofs.Gml.Position

namespace ApkFeatures.Gml

/-! ### Reading on a later line -/

/-- The same fault some lines later. -/
def Fault.later (lines : Nat) (fault : Fault) : Fault := ⟨fault.line + lines, fault.reason⟩

/-- The same token some lines later. -/
def Lexeme.later (lines : Nat) (lexeme : Lexeme) : Lexeme :=
  ⟨lexeme.token, lexeme.line + lines, lexeme.rest⟩

theorem skipGap_add (inComment : Bool) (line lines : Nat) (source : List Char) :
    skipGap inComment (line + lines) source =
      ((skipGap inComment line source).1 + lines, (skipGap inComment line source).2) := by
  induction source generalizing inComment line with
  | nil => rfl
  | cons c source ih =>
    unfold skipGap
    split
    · rw [Nat.add_right_comm, ih]
    · split
      · exact ih _ _
      · split
        · exact ih _ _
        · split
          · exact ih _ _
          · rfl

theorem Lexeme.read_add (line lines : Nat) (c : Char) (rest : List Char) :
    Lexeme.read (line + lines) c rest =
      ((Lexeme.read line c rest).map (Lexeme.later lines)).mapError (Fault.later lines) := by
  unfold Lexeme.read
  split
  · rfl
  split
  · rfl
  split
  · dsimp only
    split
    · rfl
    · rw [Nat.add_right_comm]
      rfl
  split
  · split
    · rfl
    · rfl
  split
  · rfl
  · rfl

theorem next?_add (line lines : Nat) (source : List Char) :
    next? (line + lines) source =
      ((next? line source).map fun (reached, lexeme?) =>
        (reached + lines, lexeme?.map (Lexeme.later lines))).mapError (Fault.later lines) := by
  unfold next?
  rw [skipGap_add]
  obtain ⟨reached, rest⟩ := skipGap false line source
  cases rest with
  | nil => rfl
  | cons c rest =>
    dsimp only
    rw [Lexeme.read_add]
    cases Lexeme.read reached c rest with
    | error fault => rfl
    | ok lexeme => rfl

/-- **Where the reader begins to count lines only moves the line of a fault.** -/
theorem Partial.read_add (partialRead : Partial) (line lines : Nat) (source : List Char) :
    partialRead.read (line + lines) source =
      (partialRead.read line source).mapError (Fault.later lines) := by
  fun_induction Partial.read partialRead line source with
  | case1 partialRead line source fault found =>
    rw [read_eq, next?_add, found]
    rfl
  | case2 partialRead line source reached found =>
    rw [read_eq, next?_add, found]
    cases partialRead.finish with
    | error reason => rfl
    | ok document => rfl
  | case3 partialRead line source reached lexeme found _ reason refused =>
    rw [read_eq, next?_add, found]
    dsimp only [Except.map, Except.mapError, Option.map, Lexeme.later]
    rw [refused]
    rfl
  | case4 partialRead line source reached lexeme found _ longer pushed ih =>
    rw [read_eq, next?_add, found]
    dsimp only [Except.map, Except.mapError, Option.map, Lexeme.later]
    rw [pushed]
    exact ih

/-! ### Reading behind other entries -/

namespace Partial

/-- Open lists and entries with others before all of them. -/
def behind (earlier : List Entry) :
    List (List Entry × String) → List Entry → List (List Entry × String) × List Entry
  | [], entries => ([], entries ++ earlier)
  | (before, key) :: outer, entries =>
    let (longer, first) := behind earlier outer before
    ((first, key) :: longer, entries)

/-- What has been read, with other entries before it. The last entry comes first. -/
def under (earlier : List Entry) (partialRead : Partial) : Partial :=
  let (outer, entries) := behind earlier partialRead.outer partialRead.entries
  ⟨outer, entries, partialRead.key?⟩

/-- An entry more. -/
theorem behind_cons (earlier : List Entry) (outer : List (List Entry × String)) (entry : Entry)
    (entries : List Entry) :
    behind earlier outer (entry :: entries) =
      ((behind earlier outer entries).1, entry :: (behind earlier outer entries).2) := by
  cases outer with
  | nil => rfl
  | cons list outer => rfl

theorem length_behind (earlier : List Entry) (outer : List (List Entry × String))
    (entries : List Entry) : (behind earlier outer entries).1.length = outer.length := by
  induction outer generalizing entries with
  | nil => rfl
  | cons list outer ih =>
    rw [behind, List.length_cons, List.length_cons, ih]

/-- **A token is taken as it is without the entries before.** -/
theorem push_under (earlier : List Entry) (partialRead : Partial) (token : Token) :
    (partialRead.under earlier).push token = (partialRead.push token).map (under earlier) := by
  obtain ⟨outer, entries, key?⟩ := partialRead
  cases key? with
  | none =>
    cases token with
    | closing =>
      cases outer with
      | nil => rfl
      | cons list outer =>
        refine congrArg Except.ok ?_
        simp only [under, behind, behind_cons]
    | _ => rfl
  | some key =>
    cases token with
    | opening =>
      unfold push
      simp only [under, length_behind]
      split
      · rfl
      · rfl
    | key name => rfl
    | closing => rfl
    | _ =>
      refine congrArg Except.ok ?_
      simp only [under, give, behind_cons]

theorem finish_under (earlier : List Entry) (partialRead : Partial) :
    (partialRead.under earlier).finish = partialRead.finish.map (earlier.reverse ++ ·) := by
  obtain ⟨outer, entries, key?⟩ := partialRead
  cases key? with
  | some key => rfl
  | none =>
    cases outer with
    | nil => simp only [under, behind, finish, Except.map, List.reverse_append]
    | cons list outer => rfl

/-- **Entries that were read before only stand before the others.** -/
theorem read_under (earlier : List Entry) (partialRead : Partial) (line : Nat)
    (source : List Char) :
    (partialRead.under earlier).read line source =
      (partialRead.read line source).map (earlier.reverse ++ ·) := by
  fun_induction Partial.read partialRead line source with
  | case1 partialRead line source fault found =>
    rw [read_eq, found]
    rfl
  | case2 partialRead line source reached found =>
    rw [read_of_end _ found, finish_under]
    cases partialRead.finish with
    | error reason => rfl
    | ok document => rfl
  | case3 partialRead line source reached lexeme found _ reason refused =>
    rw [read_eq, found]
    dsimp only
    rw [push_under, refused]
    rfl
  | case4 partialRead line source reached lexeme found _ longer pushed ih =>
    rw [read_eq, found]
    dsimp only
    rw [push_under, pushed]
    exact ih

end Partial

/-! ### Two files as one -/

/-- The newline between two files ends every word. -/
theorem endsWords_newline (text : List Char) : EndsWords ('\n' :: text) := by
  intro c first
  cases first
  exact ⟨by decide, by decide⟩

/-- **The tokens of a file are the same if another file follows on a line of its own.** -/
theorem Lexes.append_newline {line last : Nat} {source rest : List Char} {tokens : List Token}
    (lexes : Lexes line source tokens last rest) (second : List Char) :
    Lexes line (source ++ '\n' :: second) tokens last (rest ++ '\n' :: second) := by
  induction lexes with
  | done => exact .done _ _
  | token found _ ih =>
    exact .cons (next?_append found _ fun _ _ => endsWords_newline second) ih

/-- A gap before the first token only moves the line on which the reader begins. -/
theorem Partial.read_gap {gap : List Char} (isGap : Gap gap) (partialRead : Partial) (line : Nat)
    (source : List Char) :
    partialRead.read line (gap ++ source) =
      partialRead.read (line + gap.count '\n') source := by
  rw [read_eq, read_eq partialRead]
  unfold next?
  rw [skipGap_gap isGap]

/-- **What is read behind a document**: the entries of the document, then those of the other file,
or the fault of the other file on a later line. -/
theorem parse_newline {first : List Char} {document : Document}
    (parsed : parse first = .ok document) (second : List Char) :
    parse (first ++ '\n' :: second) =
      ((parse second).map (document ++ ·)).mapError (Fault.later (1 + first.count '\n')) := by
  obtain ⟨last, rest, reached, lexes, ended⟩ := parse_tokens parsed
  obtain ⟨isGap, _⟩ := next?_eq_none_iff.mp ended
  obtain ⟨passed, rfl, counted⟩ := lexes.advances
  have lines : last + (rest ++ ['\n']).count '\n' = 1 + (1 + (passed ++ rest).count '\n') := by
    rw [counted, List.count_append, List.count_append, List.count_singleton_self]
    omega
  calc parse (passed ++ rest ++ '\n' :: second)
      = (⟨[], document.reverse, none⟩ : Partial).read last (rest ++ '\n' :: second) :=
        Partial.read_of_lexes (lexes.append_newline second) (pushAll_of_parse parsed)
    _ = (Partial.empty.under document.reverse).read (1 + (1 + (passed ++ rest).count '\n'))
          second := by
        rw [← lines, List.append_cons, Partial.read_gap isGap]
        rfl
    _ = _ := by
        rw [Partial.read_add, Partial.read_under, List.reverse_reverse]
        rfl

/-- **Two files as one.** If a file is a document, then with a newline and another file behind it
the entries of both are read, those of the first before those of the second; and if the second file
has a fault, the same fault is reported as many lines later as the first file has. -/
theorem parse_append_newline {first : List Char} {document : Document}
    (parsed : parse first = .ok document) (second : List Char) :
    (∀ more, parse second = .ok more →
      parse (first ++ '\n' :: second) = .ok (document ++ more)) ∧
    ∀ line reason, parse second = .error ⟨line, reason⟩ →
      parse (first ++ '\n' :: second) = .error ⟨line + 1 + first.count '\n', reason⟩ := by
  rw [parse_newline parsed second]
  constructor
  · intro more read
    rw [read]
    rfl
  · intro line reason refused
    rw [refused, Nat.add_assoc]
    rfl

/-- A file that ends in a comment without a newline, before a document and before a fault. -/
theorem parse_append_newline_sample :
    parse "a -7#c\n#d".toList = .ok [("a", .int (-7))] ∧
      parse "a -7#c\n#d\n2 b".toList = .error ⟨3, .expectedKey (.int 2)⟩ ∧
        parse "a -7#c\n#d\nb 2".toList = .ok [("a", .int (-7)), ("b", .int 2)] := by
  have minus : Lexes 1 "a -7#c\n#d".toList (flatten [("a", .int (-7))]) 1 "#c\n#d".toList :=
    .cons rfl <| .cons rfl <| .done 1 _
  have first : parse "a -7#c\n#d".toList = .ok [("a", .int (-7))] :=
    parse_of_tokens (by decide) ⟨_, _, 2, minus, rfl⟩
  have two : Lexes 1 "b 2".toList (flatten [("b", .int 2)]) 1 [] :=
    .cons rfl <| .cons rfl <| .done 1 []
  have document : parse "b 2".toList = .ok [("b", .int 2)] :=
    parse_of_tokens (by decide) ⟨_, _, 1, two, rfl⟩
  have fault : parse "2 b".toList = .error ⟨1, .expectedKey (.int 2)⟩ := by
    have number : next? 1 "2 b".toList = .ok (1, some ⟨.int 2, 1, " b".toList⟩) := rfl
    rw [parse, Partial.read_eq, number]
    rfl
  exact ⟨first, (parse_append_newline first _).2 1 _ fault,
    (parse_append_newline first _).1 _ document⟩

end ApkFeatures.Gml
