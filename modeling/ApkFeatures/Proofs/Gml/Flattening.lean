/-
**Documents as sequences of tokens.**

A document is written one token after the other: a key, then a number or a text, or a nested list
between brackets. `flatten` lists these tokens.

* `flatten_append_eq` — a sequence of tokens is read in one way only: of two documents whose tokens
  begin alike, one begins with the entries of the other.
* `prefix_of_flatten_append` — entries whose tokens begin a document begin it themselves.
-/
import ApkFeatures.Gml.Reader

namespace ApkFeatures.Gml

/-! ### The tokens of a document -/

mutual

/-- The tokens of a value. -/
def Value.tokens : Value → List Token
  | .int value => [.int value]
  | .real value => [.real value]
  | .text value => [.text value]
  | .list entries => .opening :: (flatten entries ++ [.closing])

/-- The tokens of a list of entries, each key before its value. -/
def flatten : List Entry → List Token
  | [] => []
  | (key, value) :: rest => .key key :: (value.tokens ++ flatten rest)

end

mutual

/-- How many lists a value opens inside each other. -/
def Value.depth : Value → Nat
  | .list entries => nesting entries + 1
  | _ => 0

/-- How deeply the lists of a document are nested. -/
def nesting : List Entry → Nat
  | [] => 0
  | (_, value) :: rest => max value.depth (nesting rest)

end

/-- **Induction on a document**: the first entry is a list or a single token. -/
theorem entries_induction {motive : List Entry → Prop} (nil : motive [])
    (list : ∀ key entries rest, motive entries → motive rest →
      motive ((key, .list entries) :: rest))
    (single : ∀ key value rest, value.list? = none → motive rest → motive ((key, value) :: rest)) :
    ∀ entries, motive entries
  | [] => nil
  | (key, .list entries) :: rest =>
    list key entries rest (entries_induction nil list single entries)
      (entries_induction nil list single rest)
  | (key, .int _) :: rest => single key _ rest rfl (entries_induction nil list single rest)
  | (key, .real _) :: rest => single key _ rest rfl (entries_induction nil list single rest)
  | (key, .text _) :: rest => single key _ rest rfl (entries_induction nil list single rest)

@[simp]
theorem flatten_nil : flatten [] = [] := rfl

@[simp]
theorem flatten_cons (key : String) (value : Value) (rest : List Entry) :
    flatten ((key, value) :: rest) = .key key :: (value.tokens ++ flatten rest) := rfl

@[simp]
theorem flatten_append (first second : List Entry) :
    flatten (first ++ second) = flatten first ++ flatten second := by
  induction first with
  | nil => rfl
  | cons entry rest ih =>
    obtain ⟨key, value⟩ := entry
    rw [List.cons_append, flatten_cons, flatten_cons, ih, List.cons_append, List.append_assoc]

/-- Only a key begins the tokens of entries. -/
theorem flatten_ne_closing (entries : List Entry) (rest : List Token) (after : List Token) :
    flatten entries ++ .closing :: rest = .closing :: after → entries = [] := by
  intro same
  cases entries with
  | nil => rfl
  | cons entry entries =>
    rw [flatten_cons, List.cons_append] at same
    cases (List.cons.inj same).1

/-- A value that is no list is one token, which tells the value. -/
theorem Value.eq_of_tokens_append {value other : Value} {rest after : List Token}
    (single : value.list? = none) (same : value.tokens ++ rest = other.tokens ++ after) :
    other = value ∧ after = rest := by
  cases value with
  | list entries => cases single
  | int number => cases other <;> simp_all [Value.tokens]
  | real number => cases other <;> simp_all [Value.tokens]
  | text content => cases other <;> simp_all [Value.tokens]

/-- A list is written as a list. -/
theorem Value.list_of_tokens_append {entries : List Entry} {other : Value}
    {rest after : List Token}
    (same : (Value.list entries).tokens ++ rest = other.tokens ++ after) :
    ∃ others, other = .list others ∧
      flatten entries ++ .closing :: rest = flatten others ++ .closing :: after := by
  cases other with
  | list others =>
    refine ⟨others, rfl, ?_⟩
    simpa [Value.tokens] using same
  | int number => simp [Value.tokens] at same
  | real number => simp [Value.tokens] at same
  | text content => simp [Value.tokens] at same

/-- **Tokens are read in one way only.** -/
theorem flatten_append_eq (entries : List Entry) :
    ∀ (others : List Entry) (rest after : List Token),
      flatten entries ++ rest = flatten others ++ after →
        (∃ more, others = entries ++ more ∧ rest = flatten more ++ after) ∨
          ∃ more, entries = others ++ more ∧ after = flatten more ++ rest := by
  induction entries using entries_induction with
  | nil => exact fun others rest after same => Or.inl ⟨others, rfl, same⟩
  | list key nested entries ihNested ih =>
    intro others rest after same
    cases others with
    | nil => exact Or.inr ⟨_, rfl, same.symm⟩
    | cons other others =>
      obtain ⟨key', value⟩ := other
      simp only [flatten_cons, List.cons_append, List.cons.injEq, Token.key.injEq,
        List.append_assoc] at same
      obtain ⟨rfl, same⟩ := same
      obtain ⟨nested', rfl, inside⟩ := Value.list_of_tokens_append same
      -- the brackets close both lists at the same token, so neither goes on after the other
      have lists : nested' = nested ∧ flatten entries ++ rest = flatten others ++ after := by
        rcases ihNested _ _ _ inside with ⟨more, rfl, tail⟩ | ⟨more, rfl, tail⟩
        · obtain rfl := flatten_ne_closing _ _ _ tail.symm
          exact ⟨List.append_nil _, (List.cons.inj tail).2⟩
        · obtain rfl := flatten_ne_closing _ _ _ tail.symm
          exact ⟨(List.append_nil _).symm, (List.cons.inj tail).2.symm⟩
      obtain ⟨rfl, tails⟩ := lists
      rcases ih _ _ _ tails with ⟨more, rfl, tail⟩ | ⟨more, rfl, tail⟩
      · exact Or.inl ⟨more, rfl, tail⟩
      · exact Or.inr ⟨more, rfl, tail⟩
  | single key value entries single ih =>
    intro others rest after same
    cases others with
    | nil => exact Or.inr ⟨_, rfl, same.symm⟩
    | cons other others =>
      obtain ⟨key', value'⟩ := other
      simp only [flatten_cons, List.cons_append, List.cons.injEq, Token.key.injEq,
        List.append_assoc] at same
      obtain ⟨rfl, same⟩ := same
      obtain ⟨rfl, tails⟩ := Value.eq_of_tokens_append single same
      rcases ih _ _ _ tails.symm with ⟨more, rfl, tail⟩ | ⟨more, rfl, tail⟩
      · exact Or.inl ⟨more, rfl, tail⟩
      · exact Or.inr ⟨more, rfl, tail⟩

/-- Entries whose tokens begin the tokens of a document begin the document. -/
theorem prefix_of_flatten_append {entries document : List Entry} {rest : List Token}
    (same : flatten entries ++ rest = flatten document) : entries <+: document := by
  rw [← List.append_nil (flatten document)] at same
  rcases flatten_append_eq _ _ _ _ same with ⟨more, rfl, _⟩ | ⟨more, rfl, tail⟩
  · exact List.prefix_append _ _
  · cases more with
    | nil => exact (List.append_nil document).symm ▸ List.prefix_refl document
    | cons entry more => cases tail

end ApkFeatures.Gml
