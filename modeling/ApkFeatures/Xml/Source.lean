/-
**The characters that an XML reader sees.**

A reader sees the characters of the document, and in their midst those of the entities it expands.
The text of an entity is read before the document goes on, and it may hold references again; only a
limited number of expansions is allowed before the document goes on.

* `Source.next?_decreases`, `Source.expand_decreases` — each character and each expansion makes the
  source smaller, so reading ends.
-/
import ApkFeatures.Xml.Event

namespace ApkFeatures.Xml

/-- The encodings in which the bytes of a document can be read. -/
inductive Encoding where
  /-- The encoding of the text itself. -/
  | utf8
  /-- Each byte is a character. -/
  | latin1
  /-- There are no characters beyond ASCII. -/
  | ascii
deriving DecidableEq

/-- As many expansions are allowed before the document goes on. -/
def expansionLimit : Nat := 10

/-- What is left to read. -/
structure Source where
  /-- The characters that come before the rest of the document: texts of entities, and bytes of a
  character that is read as several. -/
  queue : List Char
  /-- The rest of the document. -/
  rest : List Char
  /-- The number of expansions since the document last went on. -/
  expansions : Nat
  /-- How the rest of the document is read. -/
  encoding : Encoding

namespace Source

/-- The characters as which one character of the document is read. -/
def decode (encoding : Encoding) (c : Char) : Except Fault (Char × List Char) :=
  if c.toNat < 0x80 then .ok (c, [])
  else match encoding with
    | .utf8 => .ok (c, [])
    | .ascii => .error .forbiddenCharacter
    | .latin1 =>
      match (String.utf8EncodeChar c).map fun byte => Char.ofNat byte.toNat with
      | [] => .ok (c, [])
      | first :: others => .ok (first, others)

/-- The next character. -/
def next? (source : Source) : Except Fault (Option (Char × Source)) :=
  match source.queue with
  | c :: queue => .ok (some (c, { source with queue := queue }))
  | [] =>
    match source.rest with
    | [] => .ok none
    | c :: rest => (decode source.encoding c).map fun (first, others) =>
        some (first, { source with queue := others, rest := rest, expansions := 0 })

/-- Puts the text of an entity before everything else. -/
def expand (source : Source) (text : List Char) : Except Fault Source :=
  if text.isEmpty then .ok source
  else if source.expansions < expansionLimit then
    .ok { source with queue := text ++ source.queue, expansions := source.expansions + 1 }
  else .error .entityTooDeep

/-- How much there is to read: the document, then the expansions that are left, then the queue. -/
def size (source : Source) : Nat × Nat × Nat :=
  (source.rest.length, expansionLimit - source.expansions, source.queue.length)

/-- The order in which reading makes a source smaller. -/
def Smaller (a b : Nat × Nat × Nat) : Prop :=
  Prod.Lex (· < ·) (Prod.Lex (· < ·) (· < ·)) a b

/-- Smaller than a smaller one is smaller. -/
theorem Smaller.trans {a b c : Nat × Nat × Nat} (first : Smaller a b) (second : Smaller b c) :
    Smaller a c := by
  obtain ⟨a₁, a₂, a₃⟩ := a
  obtain ⟨b₁, b₂, b₃⟩ := b
  obtain ⟨c₁, c₂, c₃⟩ := c
  simp only [Smaller, Prod.lex_def] at *
  omega

/-- Reading a character makes the source smaller. -/
theorem next?_decreases {source after : Source} {c : Char}
    (read : source.next? = .ok (some (c, after))) : Smaller after.size source.size := by
  unfold next? at read
  split at read
  · rename_i first queue queued
    cases read
    refine .right _ (.right _ ?_)
    show queue.length < source.queue.length
    rw [queued]
    exact Nat.lt_succ_self _
  · split at read
    · cases read
    · rename_i first rest remaining
      cases decoded : decode source.encoding first with
      | error fault => rw [decoded] at read; cases read
      | ok pair =>
        rw [decoded] at read
        cases read
        refine .left _ _ ?_
        show rest.length < source.rest.length
        rw [remaining]
        exact Nat.lt_succ_self _

/-- Expanding an entity does not make the source larger. -/
theorem expand_decreases {source after : Source} {text : List Char}
    (expanded : source.expand text = .ok after) :
    after = source ∨ Smaller after.size source.size := by
  unfold expand at expanded
  split at expanded
  · cases expanded; exact .inl rfl
  · split at expanded
    · rename_i room
      cases expanded
      refine .inr (.right _ (.left _ _ ?_))
      show expansionLimit - (source.expansions + 1) < expansionLimit - source.expansions
      omega
    · cases expanded

end Source

end ApkFeatures.Xml
