/-
**Steps that agree.**

Two steps agree if they give the same result wherever they start, as long as the trees of the two
runs are related, and leave trees that are related again. What relates the trees afterwards may
depend on the result. Steps made of steps that agree agree too.

* `Step.Agree` — two steps that give the same from related trees.
* `Step.Agree.bind`, `Step.Agree.mapM`, `Step.Agree.foldlM` — steps made of others.
* `Trial.agree_bind`, `Trial.agree_of_bind`, `Trial.agree_change` — trials made of others.
-/
import ApkFeatures.Proofs.Step

namespace ApkFeatures

variable {α β γ State : Type} {related later : FileTree → FileTree → Prop}
  {between : α → FileTree → FileTree → Prop} {after : β → FileTree → FileTree → Prop}

/-- From related trees two steps give the same result, and reach trees that are related by it. -/
def Step.Agree (related : FileTree → FileTree → Prop) (first second : Step α)
    (after : α → FileTree → FileTree → Prop) : Prop :=
  ∀ one other : Progress, related one.tree other.tree →
    (first one).1 = (second other).1 ∧
      after (first one).1 (first one).2.tree (second other).2.tree

namespace Step.Agree

/-- Steps that give a value and leave the files alone agree. -/
theorem of_tree {first second : Step α} (value : α)
    (one : ∀ progress, (first progress).1 = value ∧ (first progress).2.tree = progress.tree)
    (other : ∀ progress, (second progress).1 = value ∧ (second progress).2.tree = progress.tree) :
    Step.Agree related first second fun _ => related := by
  intro start start' same
  rw [(one start).1, (one start).2, (other start').1, (other start').2]
  exact ⟨rfl, same⟩

theorem pure (value : α) : Step.Agree related (pure value) (pure value) fun _ => related :=
  of_tree value (fun _ => ⟨rfl, rfl⟩) fun _ => ⟨rfl, rfl⟩

theorem tell (origin : Origin) (level : Level) (text other : String) :
    Step.Agree related (Step.tell origin level text) (Step.tell origin level other)
      fun _ => related := of_tree () (fun _ => ⟨rfl, rfl⟩) fun _ => ⟨rfl, rfl⟩

theorem tellAll (messages others : List Message) :
    Step.Agree related (Step.tellAll messages) (Step.tellAll others) fun _ => related :=
  of_tree () (fun _ => ⟨rfl, rfl⟩) fun _ => ⟨rfl, rfl⟩

/-- **One step after the other agrees** if both do. -/
theorem bind {first second : Step α} {next later : α → Step β}
    (agree : Step.Agree related first second between)
    (each : ∀ value, Step.Agree (between value) (next value) (later value) after) :
    Step.Agree related (first >>= next) (second >>= later) after := by
  intro one other start
  obtain ⟨same, reached⟩ := agree one other start
  rw [bind_apply, bind_apply, ← same]
  exact each _ _ _ reached

theorem within {first second : Step β} (task : Task)
    (agree : Step.Agree related first second after) :
    Step.Agree related (Step.within task first) (Step.within task second) after :=
  fun one other start => agree { one with told := [] } { other with told := [] } start

/-- **Steps for the items of two lists agree** if those of items with the same key do. -/
theorem mapM {Key : Type} {step later : α → Step β} (key : α → Key) {items : List α} :
    ∀ {others : List α}, (∀ item ∈ items, ∀ other ∈ others, key item = key other →
      Step.Agree related (step item) (later other) fun _ => related) →
      items.map key = others.map key →
      Step.Agree related (items.mapM step) (others.mapM later) fun _ => related := by
  induction items with
  | nil =>
    intro others _ same
    rw [List.map_eq_nil_iff.mp same.symm]
    exact .pure []
  | cons item rest ih =>
    intro others each same
    cases others with
    | nil => cases same
    | cons other remaining =>
      obtain ⟨sameKey, sameKeys⟩ := List.cons_eq_cons.mp same
      have rests := ih (fun first inRest second inRemaining =>
        each first (List.mem_cons_of_mem _ inRest) second (List.mem_cons_of_mem _ inRemaining))
        sameKeys
      rw [List.mapM_cons, List.mapM_cons]
      exact (each item List.mem_cons_self other List.mem_cons_self sameKey).bind fun value =>
        rests.bind fun values => .pure (value :: values)

/-- **A step for every item of a list agrees** if each one does, whatever state it is in. -/
theorem foldlM {related : State → FileTree → FileTree → Prop} {step later : State → α → Step State}
    (each : ∀ state item,
      Step.Agree (related state) (step state item) (later state item) related)
    (items : List α) :
    ∀ start, Step.Agree (related start) (items.foldlM step start) (items.foldlM later start)
      related := by
  induction items with
  | nil => exact fun start => .pure start
  | cons item rest ih =>
    intro start
    rw [List.foldlM_cons, List.foldlM_cons]
    exact (each start item).bind ih

end Step.Agree

namespace Trial

/-- **One trial after the other agrees** if both do, and a failure of the first one says enough. -/
theorem agree_bind {first second : Trial α} {next next' : α → Trial β}
    {between : Except Failure α → FileTree → FileTree → Prop}
    {after : Except Failure β → FileTree → FileTree → Prop}
    (agree : Step.Agree related first.run second.run between)
    (each : ∀ value, Step.Agree (between (.ok value)) (next value).run (next' value).run after)
    (failed : ∀ {failure one other}, between (.error failure) one other →
      after (.error failure) one other) :
    Step.Agree related (first >>= next).run (second >>= next').run after := by
  intro one other start
  obtain ⟨same, reached⟩ := agree one other start
  rw [run_bind, run_bind]
  rcases ended : first.run one with ⟨result, progress⟩
  rcases ended' : second.run other with ⟨result', progress'⟩
  rw [ended, ended'] at same reached
  cases same
  cases result with
  | error failure => exact ⟨rfl, failed reached⟩
  | ok value => exact each value progress progress' reached

/-- A trial agrees after a step that does not fail. -/
theorem agree_of_bind {first second : Step α} {next next' : α → Trial β}
    {between : α → FileTree → FileTree → Prop}
    {after : Except Failure β → FileTree → FileTree → Prop}
    (agree : Step.Agree related first second between)
    (each : ∀ value, Step.Agree (between value) (next value).run (next' value).run after) :
    Step.Agree related (Trial.of first >>= next).run (Trial.of second >>= next').run after := by
  intro one other start
  obtain ⟨same, reached⟩ := agree one other start
  rw [run_of_bind, run_of_bind, ← same]
  exact each _ _ _ reached

/-- **A change agrees** if it gives the same result and leaves related trees. -/
theorem agree_change (attempt? : Option Attempt)
    {action : FileTree → Except FileTree.Fault Unit × FileTree}
    (same : ∀ one other, related one other →
      (action other).1 = (action one).1 ∧ later (action one).2 (action other).2) :
    Step.Agree related (Trial.change attempt? action).run (Trial.change attempt? action).run
      fun _ => later := by
  intro one other start
  obtain ⟨equal, reached⟩ := same one.tree other.tree start
  rw [run_change, run_change, equal]
  cases (action one.tree).1 with
  | error fault => exact ⟨rfl, reached⟩
  | ok done => exact ⟨rfl, reached⟩

end Trial

end ApkFeatures
