/-
**Texts and their bytes.**

* `encode_append`, `encode_inj` — bytes of texts one after the other, and of different texts.
* `encode_of_decode?`, `decode?_eq_some_iff` — a text that was read has the bytes it was read from.
* `exists_encode_append_iff`, `decode?_between` — where a text can be cut.
-/
import ApkFeatures.Text.Utf8

namespace ApkFeatures.Text

theorem encode_append (first second : String) :
    encode (first ++ second) = encode first ++ encode second := by
  show (first ++ second).toByteArray.data.toList = _
  rw [String.toByteArray_append, ByteArray.data_append, Array.toList_append]
  rfl

theorem encode_inj {first second : String} : encode first = encode second ↔ first = second := by
  refine ⟨fun same => ?_, fun same => congrArg encode same⟩
  have both := congrArg decode? same
  rw [decode?_encode, decode?_encode] at both
  exact Option.some.inj both

theorem encode_of_decode? {bytes : Bytes} {text : String} (read : decode? bytes = some text) :
    encode text = bytes := by
  rw [decode?, String.fromUTF8?] at read
  split at read
  · cases read
    rfl
  · cases read

theorem decode?_eq_some_iff {bytes : Bytes} {text : String} :
    decode? bytes = some text ↔ bytes = encode text := by
  constructor
  · exact fun read => (encode_of_decode? read).symm
  · rintro rfl
    exact decode?_encode text

/-! ### Parts of texts -/

theorem isValidUTF8_iff_of_append {text : String} {before after : ByteArray}
    (whole : text.toByteArray = before ++ after) : before.IsValidUTF8 ↔ after.IsValidUTF8 := by
  have size : text.utf8ByteSize = before.size + after.size := by
    rw [← String.size_toByteArray, whole, ByteArray.size_append]
  have inside : (⟨before.size⟩ : String.Pos.Raw) ≤ text.rawEndPos := by
    show before.size ≤ text.utf8ByteSize
    omega
  have first : text.toByteArray.extract 0 before.size = before := by
    rw [whole, ByteArray.extract_append_eq_left rfl]
  have last : text.toByteArray.extract before.size text.utf8ByteSize = after := by
    rw [whole, ByteArray.extract_append_eq_right rfl size]
  constructor
  · intro valid
    have cut := String.Pos.Raw.isValid_iff_isValidUTF8_extract_zero.mpr ⟨inside, first.symm ▸ valid⟩
    exact last ▸ cut.isValidUTF8_extract_utf8ByteSize
  · intro valid
    have cut := String.Pos.Raw.isValid_iff_isValidUTF8_extract_utf8ByteSize.mpr
      ⟨inside, last.symm ▸ valid⟩
    exact first ▸ cut.isValidUTF8_extract_zero

theorem toByteArray_eq_append {text : String} {front rest : Bytes}
    (joined : front ++ rest = encode text) :
    text.toByteArray = ⟨front.toArray⟩ ++ ⟨rest.toArray⟩ := by
  refine ByteArray.ext (Array.toList_inj.mp ?_)
  rw [ByteArray.data_append, Array.toList_append]
  exact joined.symm

theorem exists_encode_iff {bytes : Bytes} :
    (∃ text, bytes = encode text) ↔ (⟨bytes.toArray⟩ : ByteArray).IsValidUTF8 := by
  constructor
  · rintro ⟨text, rfl⟩
    exact text.isValidUTF8
  · exact fun valid => ⟨⟨_, valid⟩, rfl⟩

/-- **Where a text is cut**, both parts are texts or neither is. -/
theorem exists_encode_append_iff {text : String} {front rest : Bytes}
    (joined : front ++ rest = encode text) :
    (∃ first, front = encode first) ↔ ∃ last, rest = encode last := by
  rw [exists_encode_iff, exists_encode_iff]
  exact isValidUTF8_iff_of_append (toByteArray_eq_append joined)

/-- A text can be cut where another one begins. -/
theorem exists_encode_of_between {between text : String} {front rest : Bytes}
    (written : between ≠ "") (joined : front ++ (encode between ++ rest) = encode text) :
    (∃ first, front = encode first) ∧ ∃ last, rest = encode last := by
  let before : ByteArray := ⟨front.toArray⟩
  let after : ByteArray := between.toByteArray ++ ⟨rest.toArray⟩
  have whole : text.toByteArray = before ++ after := by
    refine ByteArray.ext (Array.toList_inj.mp ?_)
    simp only [ByteArray.data_append, Array.toList_append]
    exact joined.symm
  have filled : 0 < between.toByteArray.size := by
    rw [String.size_toByteArray, Nat.pos_iff_ne_zero, Ne, String.utf8ByteSize_eq_zero_iff]
    exact written
  have size : text.utf8ByteSize = before.size + (between.toByteArray.size + rest.length) := by
    rw [← String.size_toByteArray, whole, ByteArray.size_append, ByteArray.size_append]
    rfl
  have inside : (⟨before.size⟩ : String.Pos.Raw) < text.rawEndPos := by
    show before.size < text.utf8ByteSize
    omega
  have begins : (text.getUTF8Byte ⟨before.size⟩ inside).IsUTF8FirstByte := by
    have first := between.isValidUTF8.isUTF8FirstByte_getElem_zero filled
    simp only [String.getUTF8Byte, whole]
    rw [ByteArray.getElem_append_right (Nat.le_refl _),
      ByteArray.getElem_append_left (by simpa using filled)]
    simpa using first
  have cut := String.Pos.Raw.isValid_iff_isUTF8FirstByte.mpr (.inr ⟨inside, begins⟩)
  have valid := cut.isValidUTF8_extract_zero
  rw [whole, ByteArray.extract_append_eq_left rfl] at valid
  obtain ⟨later, ends⟩ := (exists_encode_append_iff joined).mp (exists_encode_iff.mpr valid)
  exact ⟨exists_encode_iff.mpr valid, (exists_encode_append_iff ends).mp ⟨between, rfl⟩⟩

/-- **What stands around a text is read by itself**, as long as there is something between. -/
theorem decode?_between {between : String} (written : between ≠ "") (front rest : Bytes) :
    decode? (front ++ (encode between ++ rest)) =
      (decode? front).bind fun first =>
        (decode? rest).map fun last => first ++ (between ++ last) := by
  cases whole : decode? (front ++ (encode between ++ rest)) with
  | some text =>
    obtain ⟨⟨first, rfl⟩, ⟨last, rfl⟩⟩ :=
      exists_encode_of_between written (encode_of_decode? whole).symm
    rw [← encode_append, ← encode_append, decode?_encode] at whole
    rw [decode?_encode, decode?_encode, ← whole]
    rfl
  | none =>
    cases before : decode? front with
    | none => rfl
    | some first =>
      cases after : decode? rest with
      | none => rfl
      | some last =>
        rw [← encode_of_decode? before, ← encode_of_decode? after, ← encode_append,
          ← encode_append, decode?_encode] at whole
        cases whole

/-- What comes before a text is read by itself. -/
theorem decode?_append_encode (front : Bytes) (rest : String) :
    decode? (front ++ encode rest) = (decode? front).map (· ++ rest) := by
  cases read : decode? front with
  | some first =>
    rw [← encode_of_decode? read, ← encode_append, decode?_encode]
    rfl
  | none =>
    rw [Option.map_none, Option.eq_none_iff_forall_ne_some]
    intro text whole
    obtain ⟨first, rfl⟩ := (exists_encode_append_iff (encode_of_decode? whole).symm).mpr ⟨rest, rfl⟩
    rw [decode?_encode] at read
    cases read

/-- The bytes of a character are bytes of the texts it is in. -/
theorem subset_encode_of_mem {text : String} {c : Char} (member : c ∈ text.toList) :
    encode (String.ofList [c]) ⊆ encode text := by
  obtain ⟨before, after, whole⟩ := List.append_of_mem member
  have text_eq : text = String.ofList before ++ (String.ofList [c] ++ String.ofList after) := by
    apply String.toList_inj.mp
    simpa using whole
  rw [text_eq, encode_append, encode_append]
  exact List.subset_append_of_subset_right _ (List.subset_append_left _ _)

end ApkFeatures.Text
