/-
**Texts as bytes.**

The bytes of a text, the text of bytes that are the encoding of one, and what is shown of bytes that
are not. Bytes are cut into pieces: a character, or a longest run of bytes that begins a character
and does not go on as one; such a run is shown as one replacement character.

* `decode?_encode` — the bytes of a text are read as the text.
-/

namespace ApkFeatures

/-- Bytes: the content of a file, or a name in a folder. -/
abbrev Bytes := List UInt8

namespace Text

/-- The bytes of a text. -/
def encode (text : String) : Bytes := text.toUTF8.data.toList

/-- The text that has the bytes, if there is one. -/
def decode? (bytes : Bytes) : Option String := String.fromUTF8? ⟨bytes.toArray⟩

/-- **The bytes of a text are read as the text.** -/
theorem decode?_encode (text : String) : decode? (encode text) = some text := by
  have same : (⟨(encode text).toArray⟩ : ByteArray) = text.toByteArray := by simp [encode]
  rw [decode?, same]
  exact dif_pos text.isValidUTF8

/-! ### Pieces -/

/-- A part of a sequence of bytes. -/
inductive Piece where
  /-- Bytes that encode a character. -/
  | character (c : Char)
  /-- Bytes that encode none. -/
  | invalid (bytes : Bytes)

/-- A character whose last bytes are missing. -/
structure OpenCharacter where
  /-- Its bytes so far, the last one first. -/
  bytes : Bytes
  /-- The bits of its number so far. -/
  number : Nat
  /-- How many bytes are missing after the next one. -/
  missing : Nat
  /-- The least value of the next byte. -/
  least : UInt8
  /-- The greatest value of the next byte. -/
  greatest : UInt8

/-- What a byte begins: a whole piece, or a character with more bytes. -/
def begin (byte : UInt8) : List Piece × Option OpenCharacter :=
  let lead (bits : Nat) (missing : Nat) (least greatest : UInt8) :
      List Piece × Option OpenCharacter :=
    ([], some ⟨[byte], byte.toNat - bits, missing, least, greatest⟩)
  if byte < 0x80 then ([.character (Char.ofNat byte.toNat)], none)
  else if byte < 0xC2 then ([.invalid [byte]], none)
  else if byte < 0xE0 then lead 0xC0 0 0x80 0xBF
  else if byte = 0xE0 then lead 0xE0 1 0xA0 0xBF
  else if byte = 0xED then lead 0xE0 1 0x80 0x9F
  else if byte < 0xF0 then lead 0xE0 1 0x80 0xBF
  else if byte = 0xF0 then lead 0xF0 2 0x90 0xBF
  else if byte < 0xF4 then lead 0xF0 2 0x80 0xBF
  else if byte = 0xF4 then lead 0xF0 2 0x80 0x8F
  else ([.invalid [byte]], none)

/-- Takes a byte after a possibly unfinished character. -/
def advance (unfinished : Option OpenCharacter) (byte : UInt8) :
    List Piece × Option OpenCharacter :=
  match unfinished with
  | none => begin byte
  | some character =>
    if character.least ≤ byte ∧ byte ≤ character.greatest then
      let number := character.number * 64 + (byte.toNat - 0x80)
      match character.missing with
      | 0 => ([.character (Char.ofNat number)], none)
      | missing + 1 => ([], some ⟨byte :: character.bytes, number, missing, 0x80, 0xBF⟩)
    else
      let (pieces, next) := begin byte
      (.invalid character.bytes.reverse :: pieces, next)

/-- The pieces of the bytes that follow a possibly unfinished character. -/
def piecesAfter (unfinished : Option OpenCharacter) : Bytes → List Piece
  | [] =>
    match unfinished with
    | none => []
    | some character => [.invalid character.bytes.reverse]
  | byte :: rest =>
    let (pieces, next) := advance unfinished byte
    pieces ++ piecesAfter next rest

/-- The pieces of a sequence of bytes. -/
def pieces (bytes : Bytes) : List Piece := piecesAfter none bytes

/-- What is shown of bytes that may be no text. -/
def shown (bytes : Bytes) : String :=
  String.ofList <| (pieces bytes).map fun piece =>
    match piece with
    | .character c => c
    | .invalid _ => Char.ofNat 0xFFFD

end Text

end ApkFeatures
