/-
**References are resolved in one pass.**

A text is cut before each mark, the character `&`, into segments. A reference has one mark, at its
beginning, so it lies in one segment, and what a segment becomes does not depend on the others. A
segment that begins with a reference gives the character and then its own rest; every other segment
stays as it is.

* `IsReference` — what may stand behind a mark for a character.
* `reference?_eq_some_iff` — the reader finds a reference just if one stands there.
* `unescape_append` — what stands behind a mark is resolved on its own.
* `segments`, `unescape_eq_flatMap` — a text is resolved segment by segment.
* `unescape_of_reference`, `unescape_of_plain` — what becomes of a segment.
* `unescape_spec` — all of it.
-/
import Mathlib
import ApkFeatures.Proofs.Gml.Spelling

namespace ApkFeatures.Gml

open ApkFeatures.Text

/-! ### References -/

/-- **The characters behind a mark are a reference to a character**: one of the five names, or the
number of the character in decimal or hexadecimal digits, up to a semicolon. -/
def IsReference (c : Char) (written : List Char) : Prop := CharSpelling c ('&' :: written)

/-- **A reference has no other mark in it.** -/
theorem IsReference.unmarked {c : Char} {written : List Char} (reference : IsReference c written) :
    '&' ∉ written := by
  unfold IsReference at reference
  generalize marked : '&' :: written = spelling at reference
  have tail : written = spelling.tail := marked ▸ rfl
  rw [tail]
  cases reference with
  | literal => exact List.not_mem_nil
  | quot => decide
  | amp => decide
  | lt => decide
  | gt => decide
  | apos => decide
  | decimal spelled =>
    have digit : '&' ∉ _ := spelled.not_mem (by decide)
    simp [digit]
  | hexadecimal mark spelled =>
    have digit : '&' ∉ _ := spelled.not_mem (by decide)
    rcases mark with rfl | rfl
    · simp [digit]
    · simp [digit]

/-- A number that is read up to its semicolon is that of the character. -/
theorem spells_of_numbered? {base : Nat} {isDigit : Char → Bool} {text : List Char} {c : Char}
    {size : Nat}
    (valued : ∀ digit, isDigit digit = true → ∃ value, hexDigit? digit = some value ∧ value < base)
    (read : numbered? base isDigit text = some (c, size)) :
    ∃ digits after, text = digits ++ ';' :: after ∧ Spells base digits c.toNat ∧
      size = digits.length + 1 := by
  unfold numbered? at read
  dsimp only at read
  split at read
  · cases read
  · rename_i stops
    rw [Bool.or_eq_true, not_or, List.isEmpty_iff, decide_eq_true_eq, not_not] at stops
    obtain ⟨given, scalar, found⟩ := Option.map_eq_some_iff.mp read
    cases found
    obtain ⟨after, rest⟩ := List.head?_eq_some_iff.mp stops.2
    have digits : ∀ digit ∈ text.takeWhile isDigit,
        ∃ value, hexDigit? digit = some value ∧ value < base := fun digit member =>
      valued digit (List.all_eq_true.mp List.all_takeWhile digit member)
    refine ⟨text.takeWhile isDigit, after, ?_, ?_, rfl⟩
    · rw [← rest, List.takeWhile_append_dropWhile]
    · exact Spells.iff_numeral.mpr ⟨stops.1, digits, (toNat_of_scalar? scalar).symm⟩

/-- A name that is found is that of the character. -/
theorem isReference_of_named {text : List Char} {c : Char} {size : Nat}
    (found : (namedReferences.findSome? fun (name, c) =>
      if (name ++ [';']).isPrefixOf text then some (c, name.length + 1) else none) =
        some (c, size)) :
    ∃ written after, text = written ++ after ∧ IsReference c written ∧ size = written.length := by
  obtain ⟨⟨name, other⟩, listed, taken⟩ := List.exists_of_findSome?_eq_some found
  dsimp only at taken
  split at taken
  · rename_i begins
    cases taken
    obtain ⟨after, rfl⟩ := List.isPrefixOf_iff_prefix.mp begins
    refine ⟨name ++ [';'], after, rfl, ?_, by simp⟩
    simp only [namedReferences, List.mem_cons, Prod.mk.injEq, List.not_mem_nil, or_false] at listed
    rcases listed with ⟨rfl, rfl⟩ | ⟨rfl, rfl⟩ | ⟨rfl, rfl⟩ | ⟨rfl, rfl⟩ | ⟨rfl, rfl⟩
    · exact .quot
    · exact .amp
    · exact .lt
    · exact .gt
    · exact .apos
  · cases taken

/-- The number of a character, in decimal digits. -/
theorem isReference_of_decimal {rest : List Char} {c : Char} {size : Nat}
    (read : numbered? 10 Char.isDigit rest = some (c, size)) :
    ∃ written after, '#' :: rest = written ++ after ∧ IsReference c written ∧
      size + 1 = written.length := by
  obtain ⟨digits, after, rfl, spelled, rfl⟩ := spells_of_numbered? (fun _ => valued_of_isDigit) read
  exact ⟨'#' :: (digits ++ [';']), after, by simp, .decimal spelled, by simp⟩

/-- The number of a character, in hexadecimal digits. -/
theorem isReference_of_hexadecimal {mark : Char} (marked : mark = 'x' ∨ mark = 'X')
    {rest : List Char} {c : Char} {size : Nat}
    (read : numbered? 16 isHexDigit rest = some (c, size)) :
    ∃ written after, '#' :: mark :: rest = written ++ after ∧ IsReference c written ∧
      size + 2 = written.length := by
  obtain ⟨digits, after, rfl, spelled, rfl⟩ :=
    spells_of_numbered? (fun _ => valued_of_isHexDigit) read
  exact ⟨'#' :: mark :: (digits ++ [';']), after, by simp, .hexadecimal marked spelled, by simp⟩

theorem isReference_of_reference? {text : List Char} {c : Char} {size : Nat}
    (found : reference? text = some (c, size)) :
    ∃ written after, text = written ++ after ∧ IsReference c written ∧ size = written.length := by
  unfold reference? at found
  split at found
  · obtain ⟨⟨given, short⟩, read, same⟩ := Option.map_eq_some_iff.mp found
    cases same
    exact isReference_of_hexadecimal (.inl rfl) read
  · obtain ⟨⟨given, short⟩, read, same⟩ := Option.map_eq_some_iff.mp found
    cases same
    exact isReference_of_hexadecimal (.inr rfl) read
  · obtain ⟨⟨given, short⟩, read, same⟩ := Option.map_eq_some_iff.mp found
    cases same
    exact isReference_of_decimal read
  · exact isReference_of_named found

/-- **The reader finds a reference just if the text begins with one**, and takes all of it. -/
theorem reference?_eq_some_iff {text : List Char} {c : Char} {size : Nat} :
    reference? text = some (c, size) ↔
      ∃ written after, text = written ++ after ∧ IsReference c written ∧ size = written.length := by
  refine ⟨isReference_of_reference?, ?_⟩
  rintro ⟨written, after, rfl, reference, rfl⟩
  exact reference?_of_spelling reference after

/-- **What stands behind the next mark does not count.** -/
theorem reference?_append {front back : List Char} (marked : ∀ c ∈ back.head?, c = '&') :
    reference? (front ++ back) = reference? front := by
  refine Option.ext fun read => ?_
  obtain ⟨c, size⟩ := read
  rw [reference?_eq_some_iff, reference?_eq_some_iff]
  constructor
  · rintro ⟨written, after, whole, reference, same⟩
    rcases List.append_eq_append_iff.mp whole with ⟨more, rfl, begins⟩ | ⟨rest, rfl, -⟩
    · -- a reference that went on behind the mark would have the mark in it
      cases more with
      | nil => exact ⟨front, [], by simp, by simpa using reference, by simpa using same⟩
      | cons d more =>
        have mark : d = '&' := marked d (by rw [begins]; rfl)
        exact absurd (by simp [mark]) reference.unmarked
    · exact ⟨written, rest, rfl, reference, same⟩
  · rintro ⟨written, after, rfl, reference, same⟩
    exact ⟨written, after ++ back, List.append_assoc .., reference, same⟩

/-! ### Segments -/

/-- **What stands behind a mark is resolved on its own.** -/
theorem unescape_append {front back : List Char} (marked : ∀ c ∈ back.head?, c = '&') :
    unescape (front ++ back) = unescape front ++ unescape back := by
  induction length : front.length using Nat.strong_induction_on generalizing front with
  | _ _ ih =>
    cases front with
    | nil => rw [unescape, List.nil_append, List.nil_append]
    | cons c rest =>
      have shorter : rest.length < (c :: rest).length := Nat.lt_succ_self _
      by_cases mark : c = '&'
      · subst mark
        rw [List.cons_append, unescape, unescape, if_pos rfl, if_pos rfl, reference?_append marked]
        cases found : reference? rest with
        | none =>
          dsimp only
          rw [ih _ (length ▸ shorter) rfl, List.cons_append]
        | some read =>
          obtain ⟨shown, size⟩ := read
          obtain ⟨written, after, rfl, -, rfl⟩ := reference?_eq_some_iff.mp found
          have remaining : after.length < ('&' :: (written ++ after)).length := by
            rw [List.length_cons, List.length_append]
            omega
          dsimp only
          rw [List.append_assoc, List.drop_left, List.drop_left, ih _ (length ▸ remaining) rfl,
            List.cons_append]
      · rw [List.cons_append, unescape, unescape, if_neg mark, if_neg mark,
          ih _ (length ▸ shorter) rfl, List.cons_append]

/-- The text, cut before each mark. -/
def segments (text : List Char) : List (List Char) := text.splitBy fun _ next => next ≠ '&'

/-- Only the first segment may begin without a mark. -/
theorem head?_of_mem_tail {text segment : List Char} (later : segment ∈ (segments text).tail) :
    segment.head? = some '&' := by
  have chain := List.isChain_getLast_head_splitBy (fun _ next => decide (next ≠ '&')) text
  change (segments text).IsChain _ at chain
  generalize segments text = parts at chain later
  induction parts with
  | nil => cases later
  | cons first others ih =>
    cases others with
    | nil => cases later
    | cons second others =>
      obtain ⟨⟨_, nonempty, mark⟩, rest⟩ := List.isChain_cons_cons.mp chain
      rcases List.mem_cons.mp later with rfl | member
      · rw [List.head?_eq_some_head nonempty]
        simpa using mark
      · exact ih rest member

/-- No segment has a mark behind its first character. -/
theorem unmarked_tail {text segment : List Char} (member : segment ∈ segments text) :
    '&' ∉ segment.tail := by
  have chain := List.isChain_of_mem_splitBy member
  clear member
  induction segment with
  | nil => exact List.not_mem_nil
  | cons c rest ih =>
    cases rest with
    | nil => exact List.not_mem_nil
    | cons d more =>
      obtain ⟨unmarked, others⟩ := List.isChain_cons_cons.mp chain
      rw [List.tail_cons, List.mem_cons, not_or]
      exact ⟨Ne.symm (by simpa using unmarked), ih others⟩

/-- **A text is resolved segment by segment.** -/
theorem unescape_flatten {parts : List (List Char)}
    (marked : ∀ part ∈ parts.tail, part.head? = some '&') :
    unescape parts.flatten = parts.flatMap unescape := by
  induction parts with
  | nil => rw [List.flatten_nil, unescape, List.flatMap_nil]
  | cons first others ih =>
    have next : ∀ c ∈ others.flatten.head?, c = '&' := by
      cases others with
      | nil =>
        intro c absent
        cases absent
      | cons second rest =>
        intro c head
        have mark : second.head? = some '&' := marked second List.mem_cons_self
        rw [List.flatten_cons, List.head?_append, mark] at head
        exact (Option.some.inj head).symm
    rw [List.flatten_cons, unescape_append next, List.flatMap_cons,
      ih fun part member => marked part (List.mem_of_mem_tail member)]

theorem unescape_eq_flatMap (text : List Char) :
    unescape text = (segments text).flatMap unescape := by
  have whole : (segments text).flatten = text := List.flatten_splitBy _ text
  rw [← unescape_flatten fun _ => head?_of_mem_tail, whole]

/-! ### What becomes of a segment -/

/-- **A reference at the beginning of a segment is replaced by its character.** -/
theorem unescape_of_reference {c : Char} {written rest : List Char}
    (reference : IsReference c written) (unmarked : '&' ∉ rest) :
    unescape ('&' :: (written ++ rest)) = c :: rest := by
  rw [unescape_marked reference, unescape_of_not_mem unmarked]

/-- **A segment that begins with no reference stays as it is.** -/
theorem unescape_of_plain {segment : List Char} (unmarked : '&' ∉ segment.tail)
    (plain : ∀ c written rest, IsReference c written → segment ≠ '&' :: (written ++ rest)) :
    unescape segment = segment := by
  cases segment with
  | nil => rw [unescape]
  | cons c rest =>
    rw [List.tail_cons] at unmarked
    by_cases mark : c = '&'
    · subst mark
      have missing : reference? rest = none := by
        refine Option.eq_none_iff_forall_ne_some.mpr fun read found => ?_
        obtain ⟨shown, size⟩ := read
        obtain ⟨written, after, rfl, reference, -⟩ := reference?_eq_some_iff.mp found
        exact plain shown written after reference rfl
      rw [unescape, if_pos rfl, missing]
      exact congrArg _ (unescape_of_not_mem unmarked)
    · rw [unescape, if_neg mark, unescape_of_not_mem unmarked]

/-- What stands before the first mark stays as it is. -/
theorem unescape_plain_append {plain : List Char} (unmarked : '&' ∉ plain) (rest : List Char) :
    unescape (plain ++ rest) = plain ++ unescape rest := by
  induction plain with
  | nil => rfl
  | cons c plain ih =>
    rw [List.mem_cons, not_or] at unmarked
    rw [List.cons_append, unescape, if_neg (Ne.symm unmarked.1), ih unmarked.2, List.cons_append]

/-- **A number that no character has is kept**, however many digits it has. -/
theorem unescape_unassigned {base number : Nat} {mark digits : List Char}
    (marked : base = 10 ∧ mark = ['#'] ∨ base = 16 ∧ (mark = ['#', 'x'] ∨ mark = ['#', 'X']))
    (spelled : Spells base digits number) (unassigned : ¬ number.isValidChar)
    (rest : List Char) :
    unescape ('&' :: (mark ++ digits ++ ';' :: rest)) =
      '&' :: (mark ++ digits ++ ';' :: unescape rest) := by
  have absent : scalar? number = none := dif_neg unassigned
  have missing : reference? (mark ++ digits ++ ';' :: rest) = none := by
    rcases marked with ⟨rfl, rfl⟩ | ⟨rfl, rfl | rfl⟩
    · simpa [absent] using reference?_decimal spelled rest
    · simpa [absent] using reference?_hexadecimal (.inl rfl) spelled rest
    · simpa [absent] using reference?_hexadecimal (.inr rfl) spelled rest
  have unmarked : '&' ∉ mark ++ digits ++ [';'] := by
    have digit : '&' ∉ digits := spelled.not_mem (by decide)
    rcases marked with ⟨-, rfl⟩ | ⟨-, rfl | rfl⟩
    · simp [digit]
    · simp [digit]
    · simp [digit]
  have kept := unescape_plain_append unmarked rest
  simp only [List.append_assoc, List.singleton_append] at kept missing ⊢
  rw [unescape, if_pos rfl, missing]
  exact congrArg _ kept

/-- **References are resolved in one pass, and nothing else is changed.** The text is cut before each
mark, and what it becomes is what its segments become, one after the other. A segment that begins with
a reference becomes the character and its own rest; every other segment stays as it is, among them
those with a number that is no Unicode scalar value. What a reference gives is not read again: the
text behind the reference goes on as if it stood alone, even if the character is a mark. A text without
marks stays as it is. -/
theorem unescape_spec (text : List Char) :
    unescape text = (segments text).flatMap unescape ∧
    ((segments text).flatten = text ∧ (∀ segment ∈ segments text, '&' ∉ segment.tail) ∧
      ∀ segment ∈ (segments text).tail, segment.head? = some '&') ∧
    (∀ segment ∈ segments text,
      (∀ c written rest, IsReference c written → segment = '&' :: (written ++ rest) →
        unescape segment = c :: rest) ∧
      ((∀ c written rest, IsReference c written → segment ≠ '&' :: (written ++ rest)) →
        unescape segment = segment)) ∧
    (∀ base number mark digits,
      (base = 10 ∧ mark = ['#'] ∨ base = 16 ∧ (mark = ['#', 'x'] ∨ mark = ['#', 'X'])) →
      Spells base digits number → ¬ (number < 0xD800 ∨ 0xDFFF < number ∧ number < 0x110000) →
      ∀ rest, unescape ('&' :: (mark ++ digits ++ ';' :: rest)) =
        '&' :: (mark ++ digits ++ ';' :: unescape rest)) ∧
    (∀ c written, IsReference c written →
      ∀ rest, unescape ('&' :: (written ++ rest)) = c :: unescape rest) ∧
    ('&' ∉ text → unescape text = text) := by
  refine ⟨unescape_eq_flatMap text, ⟨List.flatten_splitBy _ text, fun _ => unmarked_tail,
    fun _ => head?_of_mem_tail⟩, fun segment member => ⟨?_, unescape_of_plain (unmarked_tail member)⟩,
    fun base number mark digits marked spelled unassigned =>
      unescape_unassigned marked spelled unassigned,
    fun c written reference => unescape_marked reference, unescape_of_not_mem⟩
  rintro c written rest reference rfl
  have unmarked := unmarked_tail member
  rw [List.tail_cons, List.mem_append, not_or] at unmarked
  exact unescape_of_reference reference unmarked.2

/-- A reference to a mark, one by a number, and the number of a surrogate: what the first one gives
is not read again, and the last one stays. -/
theorem unescape_spec_sample :
    let text := "x&amp;lt;&#x41;&#55296;".toList
    segments text = ["x".toList, "&amp;lt;".toList, "&#x41;".toList, "&#55296;".toList] ∧
      IsReference '&' "amp;".toList ∧ IsReference 'A' "#x41;".toList ∧
      Spells 10 "55296".toList 55296 ∧ unescape text = "x&lt;A&#55296;".toList := by
  intro text
  have cut : segments text =
      ["x".toList, "&amp;lt;".toList, "&#x41;".toList, "&#55296;".toList] := by decide
  have letter : Spells 16 "41".toList 'A'.toNat := by
    have digits : "41".toList.all isHexDigit = true := by decide
    exact Spells.iff_numeral.mpr ⟨by decide, fun digit member =>
      valued_of_isHexDigit (List.all_eq_true.mp digits digit member), by decide⟩
  have surrogate : Spells 10 "55296".toList 55296 := by
    have digits : "55296".toList.all Char.isDigit = true := by decide
    exact Spells.iff_numeral.mpr ⟨by decide, fun digit member =>
      valued_of_isDigit (List.all_eq_true.mp digits digit member), by decide +kernel⟩
  have code : IsReference 'A' "#x41;".toList := .hexadecimal (.inl rfl) letter
  obtain ⟨whole, -, each, numbers, -⟩ := unescape_spec text
  have plain := (each "x".toList (by rw [cut]; simp)).2 fun _ _ _ _ same =>
    absurd (List.cons.inj same).1 (by decide)
  have mark := (each "&amp;lt;".toList (by rw [cut]; simp)).1 '&' "amp;".toList "lt;".toList .amp rfl
  have shown := (each "&#x41;".toList (by rw [cut]; simp)).1 'A' "#x41;".toList [] code rfl
  have kept := numbers 10 55296 ['#'] "55296".toList (.inl ⟨rfl, rfl⟩) surrogate (by decide) []
  rw [unescape] at kept
  refine ⟨cut, .amp, code, surrogate, ?_⟩
  rw [whole, cut, List.flatMap_cons, List.flatMap_cons, List.flatMap_cons, List.flatMap_cons, plain,
    mark, shown, show unescape "&#55296;".toList = _ from kept]
  rfl

end ApkFeatures.Gml
