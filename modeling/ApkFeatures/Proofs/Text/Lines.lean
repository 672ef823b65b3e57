/-
**Where lines end.**

Bytes are the encoding of a text just if what stands on both sides of a line feed is. So the lines of
bytes are read one by one, and it does not matter whether they end in a line feed alone or after a
carriage return. Whoever takes the first two lines sees of what follows only whether it is a text.

* `lines?`, `lines?_cons` — the lines of bytes.
* `withReturns`, `lines?_withReturns` — carriage returns at the ends of lines.
* `Restyled`, `Restyled.firstLines?` — changes that leave the first two lines as they are.
-/
import ApkFeatures.Proofs.Report.Table
import ApkFeatures.Proofs.Text.Utf8

namespace ApkFeatures.Text

/-! ### Lines of bytes -/

/-- The byte that ends lines. -/
def lineFeed : UInt8 := 10

/-- The byte that may stand before it. -/
def carriageReturn : UInt8 := 13

/-- The lines of bytes, if they are a text. -/
def lines? (content : Bytes) : Option (List (List Char)) :=
  (decode? content).map fun text => lines text.toList

theorem not_mem_of_decode? {line : Bytes} {text : String} {c : Char} {byte : UInt8}
    (read : decode? line = some text) (encoded : encode (String.ofList [c]) = [byte])
    (missing : byte ∉ line) : c ∉ text.toList := fun member => by
  have bytes := subset_encode_of_mem member
  rw [encoded, encode_of_decode? read] at bytes
  exact missing (bytes List.mem_cons_self)

/-- **A line that is ended is read by itself.** -/
theorem lines?_cons {line : Bytes} (oneLine : lineFeed ∉ line) (rest : Bytes) :
    lines? (line ++ lineFeed :: rest) =
      (decode? line).bind fun first => (lines? rest).map (withoutReturn first.toList :: ·) := by
  have whole := @decode?_between "\n" (by decide) line rest
  rw [lines?, show line ++ lineFeed :: rest = line ++ (encode "\n" ++ rest) from rfl, whole]
  cases read : decode? line with
  | none => rfl
  | some first =>
    rw [Option.bind_some, Option.bind_some, lines?, Option.map_map, Option.map_map]
    congr 1
    funext last
    have one : '\n' ∉ first.toList := not_mem_of_decode? read (by decide) oneLine
    show lines (first ++ ("\n" ++ last)).toList = _
    rw [String.toList_append, String.toList_append]
    exact lines_cons one

/-! ### Changes that leave the first lines -/

/-- The bytes with a carriage return before every line feed. -/
def withReturns (content : Bytes) : Bytes :=
  content.flatMap fun byte => if byte = lineFeed then [carriageReturn, lineFeed] else [byte]

theorem withReturns_of_oneLine {line : Bytes} (oneLine : lineFeed ∉ line) :
    withReturns line = line := by
  induction line with
  | nil => rfl
  | cons byte rest ih =>
    obtain ⟨apart, later⟩ := not_or.mp (mt List.mem_cons.mpr oneLine)
    rw [withReturns, List.flatMap_cons, if_neg (Ne.symm apart)]
    exact congrArg (byte :: ·) (ih later)

theorem withReturns_cons {line : Bytes} (oneLine : lineFeed ∉ line) (rest : Bytes) :
    withReturns (line ++ lineFeed :: rest) =
      (line ++ [carriageReturn]) ++ lineFeed :: withReturns rest := by
  rw [withReturns, List.flatMap_append, List.flatMap_cons, if_pos rfl, ← withReturns,
    withReturns_of_oneLine oneLine, List.append_assoc]
  rfl

/-- **Carriage returns before the line feeds do not change the lines.** -/
theorem lines?_withReturns (content : Bytes) (bare : carriageReturn ∉ content) :
    lines? (withReturns content) = lines? content := by
  induction length : content.length using Nat.strongRecOn generalizing content with
  | ind count ih =>
    by_cases ended : lineFeed ∈ content
    · obtain ⟨line, rest, rfl, oneLine⟩ := List.eq_append_cons_of_mem ended
      obtain ⟨bareLine, bareRest⟩ := not_or.mp (mt List.mem_append.mpr bare)
      have shorter : rest.length < count := by
        rw [← length, List.length_append, List.length_cons]
        omega
      have oneLine' : lineFeed ∉ line ++ [carriageReturn] := by
        rw [List.mem_append, not_or]
        exact ⟨oneLine, by decide⟩
      rw [withReturns_cons oneLine, lines?_cons oneLine', lines?_cons oneLine,
        ih _ shorter rest (fun member => bareRest (List.mem_cons_of_mem _ member)) rfl,
        show line ++ [carriageReturn] = line ++ encode "\r" from rfl, decode?_append_encode,
        Option.bind_map]
      refine Option.bind_congr fun first read => ?_
      have ending : '\r' ∉ first.toList := not_mem_of_decode? read (by decide) bareLine
      have stripped : withoutReturn (first ++ "\r").toList = withoutReturn first.toList := by
        rw [withoutReturn_of_ending fun last => ending (List.mem_of_getLast? last), withoutReturn,
          String.toList_append]
        show (if (first.toList ++ ['\r']).getLast? = some '\r' then
          (first.toList ++ ['\r']).dropLast else _) = _
        rw [List.getLast?_concat, if_pos rfl, List.dropLast_concat]
      rw [Function.comp, stripped]
    · rw [withReturns_of_oneLine ended]

/-- **Changes that leave the first two lines as they are**: the line feeds of bytes without carriage
returns get carriage returns, or what follows two lines that are ended is replaced, a text by a
text. -/
inductive Restyled : Bytes → Bytes → Prop where
  /-- All lines end in a carriage return and a line feed. -/
  | returned {content : Bytes} (bare : carriageReturn ∉ content) :
    Restyled content (withReturns content)
  /-- Other lines follow. -/
  | followed {first second rest more : Bytes} (oneLine : lineFeed ∉ first)
    (oneLine' : lineFeed ∉ second) (texts : (decode? rest).isSome = (decode? more).isSome) :
    Restyled (first ++ lineFeed :: (second ++ lineFeed :: rest))
      (first ++ lineFeed :: (second ++ lineFeed :: more))

/-- Lines can be appended to two lines that are ended. -/
theorem Restyled.append {content : Bytes} (ended : 2 ≤ content.count lineFeed) (more : String) :
    Restyled content (content ++ encode more) := by
  obtain ⟨first, tail, rfl, oneLine⟩ :=
    List.eq_append_cons_of_mem (List.count_pos_iff.mp (Nat.lt_of_lt_of_le Nat.two_pos ended))
  rw [List.count_append, List.count_eq_zero_of_not_mem oneLine, List.count_cons_self] at ended
  obtain ⟨second, rest, rfl, oneLine'⟩ :=
    List.eq_append_cons_of_mem (List.count_pos_iff.mp (show 0 < tail.count lineFeed by omega))
  have texts : (decode? rest).isSome = (decode? (rest ++ encode more)).isSome := by
    rw [decode?_append_encode, Option.isSome_map]
  have restyled := Restyled.followed oneLine oneLine' texts
  simpa only [List.append_assoc, List.cons_append] using restyled

/-- The first two lines of bytes, if these are a text. -/
def firstLines? (content : Bytes) : Option (List (List Char)) := (lines? content).map (·.take 2)

/-- **The first two lines stay.** -/
theorem Restyled.firstLines? {before after : Bytes} (restyled : Restyled before after) :
    firstLines? after = firstLines? before := by
  cases restyled with
  | returned bare => rw [Text.firstLines?, lines?_withReturns before bare, Text.firstLines?]
  | @followed first second rest more oneLine oneLine' texts =>
    rw [Text.firstLines?, Text.firstLines?, lines?_cons oneLine, lines?_cons oneLine,
      lines?_cons oneLine', lines?_cons oneLine', lines?, lines?]
    cases decode? first with
    | none => rfl
    | some _ =>
      cases decode? second with
      | none => rfl
      | some _ =>
        cases before : decode? rest with
        | none =>
          rw [before, Option.isSome_none, eq_comm, Option.isSome_eq_false_iff,
            Option.isNone_iff_eq_none] at texts
          rw [texts]
        | some _ =>
          rw [before, Option.isSome_some] at texts
          obtain ⟨_, after⟩ := Option.isSome_iff_exists.mp texts.symm
          rw [after]
          rfl

end ApkFeatures.Text
