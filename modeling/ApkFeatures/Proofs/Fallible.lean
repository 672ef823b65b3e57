/-
**Computations that may fail.**

A computation of several steps gives a result if every step does, and otherwise the fault of the
first step that fails.

* `bind_eq_ok_iff`, `bind_eq_error_iff` — two steps.
* `foldlM_eq_error_iff` — a step for every item of a list.
* `mapError_eq_ok_iff`, `mapError_eq_error_iff` — a fault that is given another form.
* `toOption_eq_some_iff` — a result, when nothing is said of faults.
-/

namespace ApkFeatures.Fallible

variable {Reason Value Result : Type}

theorem bind_eq_ok_iff {first : Except Reason Value} {more : Value → Except Reason Result}
    {result : Result} :
    (first >>= more) = .ok result ↔ ∃ value, first = .ok value ∧ more value = .ok result := by
  cases first with
  | error reason =>
    constructor
    · intro same
      cases same
    · rintro ⟨value, same, _⟩
      cases same
  | ok value =>
    constructor
    · exact fun same => ⟨value, rfl, same⟩
    · rintro ⟨other, same, given⟩
      cases same
      exact given

theorem bind_eq_error_iff {first : Except Reason Value} {more : Value → Except Reason Result}
    {reason : Reason} :
    (first >>= more) = .error reason ↔
      first = .error reason ∨ ∃ value, first = .ok value ∧ more value = .error reason := by
  cases first with
  | error other =>
    constructor
    · intro same
      cases same
      exact Or.inl rfl
    · rintro (same | ⟨value, same, _⟩)
      · cases same
        rfl
      · cases same
  | ok value =>
    constructor
    · exact fun same => Or.inr ⟨value, rfl, same⟩
    · rintro (same | ⟨other, same, failed⟩)
      · cases same
      · cases same
        exact failed

/-- **A fold fails at the first item whose step fails.** -/
theorem foldlM_eq_error_iff {State Item : Type} {step : State → Item → Except Reason State}
    {items : List Item} {start : State} {reason : Reason} :
    items.foldlM step start = .error reason ↔
      ∃ before item after reached, items = before ++ item :: after ∧
        before.foldlM step start = .ok reached ∧ step reached item = .error reason := by
  constructor
  · intro failed
    induction items generalizing start with
    | nil => cases failed
    | cons item items ih =>
      rw [List.foldlM_cons] at failed
      rcases bind_eq_error_iff.mp failed with here | ⟨next, first, later⟩
      · exact ⟨[], item, items, start, rfl, rfl, here⟩
      · obtain ⟨before, bad, after, reached, rfl, passed, refused⟩ := ih later
        refine ⟨item :: before, bad, after, reached, rfl, ?_, refused⟩
        rw [List.foldlM_cons, first]
        exact passed
  · rintro ⟨before, item, after, reached, rfl, passed, refused⟩
    rw [List.foldlM_append]
    refine bind_eq_error_iff.mpr (Or.inr ⟨reached, passed, ?_⟩)
    rw [List.foldlM_cons]
    exact bind_eq_error_iff.mpr (Or.inl refused)

theorem mapError_eq_ok_iff {Fault : Type} {form : Reason → Fault} {outcome : Except Reason Value}
    {value : Value} : outcome.mapError form = .ok value ↔ outcome = .ok value := by
  cases outcome with
  | error reason =>
    constructor
    · intro same
      cases same
    · intro same
      cases same
  | ok other =>
    constructor
    · intro same
      cases same
      rfl
    · intro same
      cases same
      rfl

theorem mapError_eq_error_iff {Fault : Type} {form : Reason → Fault}
    {outcome : Except Reason Value} {fault : Fault} :
    outcome.mapError form = .error fault ↔
      ∃ reason, outcome = .error reason ∧ form reason = fault := by
  cases outcome with
  | error reason =>
    constructor
    · intro same
      cases same
      exact ⟨reason, rfl, rfl⟩
    · rintro ⟨other, same, rfl⟩
      cases same
      rfl
  | ok value =>
    constructor
    · intro same
      cases same
    · rintro ⟨reason, same, _⟩
      cases same

theorem toOption_eq_some_iff {outcome : Except Reason Value} {value : Value} :
    outcome.toOption = some value ↔ outcome = .ok value := by
  cases outcome <;> simp [Except.toOption]

theorem eq_ok_of_toOption {outcome : Except Reason Value} {value : Value}
    (given : outcome.toOption = some value) : outcome = .ok value :=
  toOption_eq_some_iff.mp given

end ApkFeatures.Fallible
