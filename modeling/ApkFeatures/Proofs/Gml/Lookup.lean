/-
**Looking keys up.**

Of a repeated key the first entry counts. `First` says so without a search: an entry has the key and
no entry before it has.

* `lookup_eq_some_iff` — looking a key up finds its first entry.
* `lookup_bind_eq_some_iff` — the same where one kind of value is asked for; a first entry of
  another kind is not passed over.
-/
import ApkFeatures.Gml.Basic

namespace ApkFeatures.Gml

/-- The first entry with the key has the value. -/
def First (entries : List Entry) (key : String) (value : Value) : Prop :=
  ∃ before after, entries = before ++ (key, value) :: after ∧ ∀ entry ∈ before, entry.1 ≠ key

theorem first_cons {entry : Entry} {entries : List Entry} {key : String} {value : Value} :
    First (entry :: entries) key value ↔
      entry = (key, value) ∨ entry.1 ≠ key ∧ First entries key value := by
  constructor
  · rintro ⟨before, after, whole, earlier⟩
    cases before with
    | nil =>
      cases whole
      exact Or.inl rfl
    | cons other before =>
      obtain ⟨rfl, rfl⟩ := List.cons.inj whole
      refine Or.inr ⟨earlier _ List.mem_cons_self, before, after, rfl, ?_⟩
      exact fun other member => earlier other (List.mem_cons_of_mem _ member)
  · rintro (rfl | ⟨different, before, after, rfl, earlier⟩)
    · exact ⟨[], entries, rfl, fun other member => absurd member List.not_mem_nil⟩
    · refine ⟨entry :: before, after, rfl, fun other member => ?_⟩
      rcases List.mem_cons.mp member with rfl | member
      · exact different
      · exact earlier other member

/-- **Looking a key up finds its first entry.** -/
theorem lookup_eq_some_iff {entries : List Entry} {key : String} {value : Value} :
    lookup entries key = some value ↔ First entries key value := by
  induction entries with
  | nil =>
    constructor
    · intro found
      cases found
    · rintro ⟨before, after, whole, _⟩
      cases before with
      | nil => cases whole
      | cons other before => cases whole
  | cons entry entries ih =>
    rw [first_cons, ← ih]
    obtain ⟨name, content⟩ := entry
    unfold lookup
    by_cases same : name = key
    · subst same
      simp
    · simp [same]

/-! ### Values of one kind -/

theorem Value.int?_eq_some_iff {value : Value} {number : Int64} :
    value.int? = some number ↔ value = .int number := by
  cases value <;> simp [int?]

theorem Value.text?_eq_some_iff {value : Value} {content : String} :
    value.text? = some content ↔ value = .text content := by
  cases value <;> simp [text?]

theorem Value.list?_eq_some_iff {value : Value} {entries : List Entry} :
    value.list? = some entries ↔ value = .list entries := by
  cases value <;> simp [list?]

theorem Value.list?_eq_none_iff {value : Value} :
    value.list? = none ↔ ∀ entries, value ≠ .list entries := by
  rw [Option.eq_none_iff_forall_ne_some]
  exact forall_congr' fun entries => not_congr Value.list?_eq_some_iff

section kinds

variable {Content : Type} {kind : Value → Option Content} {form : Content → Value}
  {entries : List Entry} {key : String}

/-- **A value of a kind is found if the first entry has it.** -/
theorem lookup_bind_eq_some_iff
    (isKind : ∀ value content, kind value = some content ↔ value = form content)
    {content : Content} :
    (lookup entries key).bind kind = some content ↔ First entries key (form content) := by
  rw [← lookup_eq_some_iff, Option.bind_eq_some_iff]
  constructor
  · rintro ⟨value, found, same⟩
    rw [found, (isKind value content).mp same]
  · exact fun found => ⟨_, found, (isKind _ content).mpr rfl⟩

/-- **None is found if the first entry is of another kind**, or there is no entry. -/
theorem lookup_bind_eq_none_iff
    (isKind : ∀ value content, kind value = some content ↔ value = form content) :
    (lookup entries key).bind kind = none ↔ ∀ content, ¬ First entries key (form content) := by
  rw [Option.eq_none_iff_forall_ne_some]
  exact forall_congr' fun content => not_congr (lookup_bind_eq_some_iff isKind)

theorem lookup_int_eq_some_iff {number : Int64} :
    (lookup entries key).bind Value.int? = some number ↔ First entries key (.int number) :=
  lookup_bind_eq_some_iff fun _ _ => Value.int?_eq_some_iff

theorem lookup_text_eq_some_iff {content : String} :
    (lookup entries key).bind Value.text? = some content ↔ First entries key (.text content) :=
  lookup_bind_eq_some_iff fun _ _ => Value.text?_eq_some_iff

theorem lookup_int_eq_none_iff :
    (lookup entries key).bind Value.int? = none ↔ ∀ number, ¬ First entries key (.int number) :=
  lookup_bind_eq_none_iff fun _ _ => Value.int?_eq_some_iff

theorem lookup_text_eq_none_iff :
    (lookup entries key).bind Value.text? = none ↔ ∀ content, ¬ First entries key (.text content) :=
  lookup_bind_eq_none_iff fun _ _ => Value.text?_eq_some_iff

end kinds

/-- A key has one first entry. -/
theorem First.unique {entries : List Entry} {key : String} {value other : Value}
    (first : First entries key value) (again : First entries key other) : value = other := by
  have found := lookup_eq_some_iff.mpr first
  rw [lookup_eq_some_iff.mpr again] at found
  exact (Option.some.inj found).symm

end ApkFeatures.Gml
