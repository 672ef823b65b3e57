/-
**Documents as texts.**

A rendering of a document writes its tokens in order, each in any of its spellings, with gaps of
white space and comments around them. A gap may be empty unless words meet: in a document these are
a key and a number, in either order.

* `skipGap_gap` — a gap is skipped, whatever stands behind it.
* `Renders.lexes` — a rendering of tokens consists of these tokens.
* `parse_rendering` — every rendering of a document is read as the document.
-/
import ApkFeatures.Proofs.Gml.Spelling

namespace ApkFeatures.Gml

open ApkFeatures.Number ApkFeatures.Text

/-! ### Gaps -/

/-- A gap: white space and comments, each ended by a newline. -/
inductive Gap : List Char → Prop where
  | nil : Gap []
  | blank {c : Char} {gap : List Char} (blank : isBlank c = true) (more : Gap gap) : Gap (c :: gap)
  | comment {body gap : List Char} (line : '\n' ∉ body) (more : Gap gap) :
      Gap ('#' :: (body ++ '\n' :: gap))

/-- A comment is skipped up to the end of its line. -/
theorem skipGap_comment {body : List Char} (oneLine : '\n' ∉ body) (line : Nat)
    (source : List Char) :
    skipGap true line (body ++ '\n' :: source) = skipGap false (line + 1) source := by
  induction body with
  | nil =>
    rw [List.nil_append, skipGap, if_pos rfl]
  | cons c body ih =>
    rw [List.mem_cons, not_or] at oneLine
    rw [List.cons_append, skipGap, if_neg (Ne.symm oneLine.1), if_pos rfl]
    exact ih oneLine.2

/-- **A gap is skipped**, and its newlines are counted. -/
theorem skipGap_gap {gap : List Char} (isGap : Gap gap) (line : Nat) (source : List Char) :
    skipGap false line (gap ++ source) = skipGap false (line + gap.count '\n') source := by
  induction isGap generalizing line with
  | nil => rfl
  | @blank c gap blank _ ih =>
    rw [List.cons_append, skipGap]
    by_cases newline : c = '\n'
    · rw [if_pos newline, ih, newline, List.count_cons_self, Nat.add_assoc, Nat.add_comm 1]
    · have notMark : c ≠ '#' := by
        rintro rfl
        exact absurd blank (by decide)
      rw [if_neg newline, if_neg (by decide), if_neg notMark, if_pos blank, ih,
        List.count_cons_of_ne newline]
  | @comment body gap oneLine _ ih =>
    have counted : ('#' :: (body ++ '\n' :: gap)).count '\n' = gap.count '\n' + 1 := by
      rw [List.count_cons_of_ne (by decide), List.count_append, List.count_eq_zero.mpr oneLine,
        List.count_cons_self, Nat.zero_add]
    rw [List.cons_append, List.append_assoc, List.cons_append, skipGap, if_neg (by decide),
      if_neg (by decide), if_pos rfl, skipGap_comment oneLine, ih, counted, Nat.add_assoc,
      Nat.add_comm 1]

/-- No gap goes on with a word. -/
theorem Gap.ends_word {gap : List Char} (isGap : Gap gap) :
    ∀ c ∈ gap.head?, continuesWord c = false := by
  intro c first
  cases isGap with
  | nil => cases first
  | blank blank _ =>
    cases first
    exact continuesWord_of_isBlank blank
  | comment _ _ =>
    cases first
    rfl

/-! ### Renderings -/

/-- **The ways to write tokens** behind a token, or at the beginning of a source: each behind a gap,
and the last one before a gap. -/
inductive Renders : Option Token → List Token → List Char → Prop where
  | ends {before : Option Token} {gap : List Char} (isGap : Gap gap) : Renders before [] gap
  | token {before : Option Token} {token : Token} {tokens : List Token}
      {gap written rest : List Char} (isGap : Gap gap)
      (apart : ∀ word ∈ before, word.isWord = true → token.isWord = true → gap ≠ [])
      (spelled : token.Spelling written) (more : Renders (some token) tokens rest) :
      Renders before (token :: tokens) (gap ++ (written ++ rest))

/-- The source is a rendering of the document. -/
def IsRendering (document : Document) (source : List Char) : Prop :=
  Renders none (flatten document) source

/-- A token that is no word is written with a mark that ends a word. -/
theorem Token.Spelling.ends_word {token : Token} {written : List Char}
    (spelled : token.Spelling written) (mark : token.isWord = false) :
    ∀ c ∈ written.head?, continuesWord c = false := by
  intro c first
  cases spelled with
  | key => cases mark
  | int => cases mark
  | real => cases mark
  | text =>
    cases first
    rfl
  | opening =>
    cases first
    rfl
  | closing =>
    cases first
    rfl

namespace Renders

/-- What is written behind a word does not go on with it. -/
theorem endsBefore {word : Token} {tokens : List Token} {source : List Char}
    (rendered : Renders (some word) tokens source) : word.EndsBefore source := by
  intro isWord c first
  cases rendered with
  | ends isGap => exact isGap.ends_word c first
  | @token _ next tokens gap written rest isGap apart spelled _ =>
    cases gap with
    | cons d gap =>
      cases first
      exact isGap.ends_word c rfl
    | nil =>
      -- with no gap between them, the next token is no word
      have mark : next.isWord = false := by
        rw [Bool.eq_false_iff]
        exact fun nextWord => apart word rfl isWord nextWord rfl
      obtain ⟨e, more, rfl, _⟩ := spelled.isReadFrom
      exact spelled.ends_word mark c first

/-- A spelled token behind a gap is the next token. -/
theorem next?_eq {gap written : List Char} {token : Token} (isGap : Gap gap)
    (spelled : token.Spelling written) {after : List Char} (ends : token.EndsBefore after)
    (line : Nat) :
    ∃ reached, next? line (gap ++ (written ++ after)) =
      .ok (reached, some ⟨token, reached, after⟩) := by
  obtain ⟨c, more, rfl, notMark, notBlank, reads⟩ := spelled.isReadFrom
  obtain ⟨reached, read⟩ := reads (line + gap.count '\n') after ends
  refine ⟨reached, next?_eq_some_iff.mpr ⟨_, c, more ++ after, ?_, read, rfl⟩⟩
  have notNewline : c ≠ '\n' := by
    rintro rfl
    exact absurd notBlank (by decide)
  rw [skipGap_gap isGap, List.cons_append, skipGap, if_neg notNewline, if_neg (by decide),
    if_neg notMark, notBlank]
  rfl

/-- **A rendering of tokens consists of these tokens**, on whatever line it begins. -/
theorem lexes {before : Option Token} {tokens : List Token} {source : List Char}
    (rendered : Renders before tokens source) (line : Nat) :
    ∃ last rest reached, Lexes line source tokens last rest ∧
      next? last rest = .ok (reached, none) := by
  induction rendered generalizing line with
  | @ends before gap isGap =>
    refine ⟨line, gap, line + gap.count '\n', .done _ _, ?_⟩
    have skipped := skipGap_gap isGap line []
    rw [List.append_nil] at skipped
    unfold next?
    rw [skipped]
    rfl
  | token isGap apart spelled more ih =>
    obtain ⟨reached, found⟩ := next?_eq isGap spelled more.endsBefore line
    obtain ⟨last, rest, final, lexes, ended⟩ := ih reached
    exact ⟨last, rest, final, .cons found lexes, ended⟩

end Renders

/-- **Every rendering of a document is read as the document**: the same keys and values in the same
order, repetitions included. -/
theorem parse_rendering {document : Document} {source : List Char}
    (shallow : nesting document ≤ depthLimit) (rendered : IsRendering document source) :
    parse source = .ok document := by
  apply parse_of_tokens shallow
  exact Renders.lexes rendered 1

/-- A rendering with a comment, a signed integer with leading zeros, references and a real. -/
theorem parse_rendering_sample :
    let document : Document := [("graph", .list [("id", .int (-7)), ("label", .text "a\"\n]")]),
      ("e", .real ⟨0x4004000000000000⟩)]
    let source := " graph[#c\nid -007 label\"a&quot;\n&#x5D;\"] e 2.5e0".toList
    nesting document ≤ depthLimit ∧ IsRendering document source ∧
      parse source = .ok document := by
  have space : Gap [' '] := .blank (by decide) .nil
  have comment : Gap "#c\n".toList := @Gap.comment ['c'] [] (by decide) .nil
  have graph : Token.Spelling (.key "graph") "graph".toList :=
    @Token.Spelling.key 'g' "raph".toList (by decide) (by simp)
  have id : Token.Spelling (.key "id") "id".toList :=
    @Token.Spelling.key 'i' "d".toList (by decide) (by simp)
  have label : Token.Spelling (.key "label") "label".toList :=
    @Token.Spelling.key 'l' "abel".toList (by decide) (by simp)
  have e : Token.Spelling (.key "e") "e".toList :=
    @Token.Spelling.key 'e' [] (by decide) (by simp)
  have zero : Spells 10 "0".toList 0 := @Spells.digit 10 '0' 0 rfl (by decide)
  have zeros : Spells 10 "00".toList 0 := @Spells.more 10 "0".toList 0 '0' 0 zero rfl (by decide)
  have seven : Spells 10 "007".toList 7 := @Spells.more 10 "00".toList 0 '7' 7 zeros rfl (by decide)
  have integer : Token.Spelling (.int (-7)) "-007".toList := .int (.minus seven)
  have real : Token.Spelling (.real ⟨0x4004000000000000⟩) "2.5e0".toList :=
    .real (by simp) (by simp) (by decide +kernel)
  have five : Spells 16 "5".toList 5 := @Spells.digit 16 '5' 5 rfl (by decide)
  have bracket : Spells 16 "5D".toList 93 :=
    @Spells.more 16 "5".toList 5 'D' 13 five rfl (by decide)
  have letter : CharSpelling 'a' ['a'] := .literal (by decide) (by decide)
  have newline : CharSpelling '\n' ['\n'] := .literal (by decide) (by decide)
  have reference : CharSpelling ']' "&#x5D;".toList :=
    @CharSpelling.hexadecimal ']' 'x' "5D".toList (Or.inl rfl) bracket
  have content : TextSpelling "a\"\n]".toList "a&quot;\n&#x5D;".toList :=
    .cons letter (.cons .quot (.cons newline (.cons reference .nil)))
  have text : Token.Spelling (.text "a\"\n]") "\"a&quot;\n&#x5D;\"".toList := .text content
  have rendered : IsRendering [("graph", .list [("id", .int (-7)), ("label", .text "a\"\n]")]),
      ("e", .real ⟨0x4004000000000000⟩)]
      " graph[#c\nid -007 label\"a&quot;\n&#x5D;\"] e 2.5e0".toList :=
    .token space (by simp) graph <| .token .nil (by decide) .opening <|
    .token comment (by simp) id <| .token space (by simp) integer <|
    .token space (by simp) label <| .token .nil (by decide) text <|
    .token .nil (by decide) .closing <|
    .token space (by simp) e <| .token space (by simp) real <| .ends .nil
  have shallow : nesting [("graph", .list [("id", .int (-7)), ("label", .text "a\"\n]")]),
      ("e", .real ⟨0x4004000000000000⟩)] ≤ depthLimit := by decide
  exact ⟨shallow, rendered, parse_rendering shallow rendered⟩

end ApkFeatures.Gml
