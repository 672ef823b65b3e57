/-
**Runs of steps.**

A step is run from some progress and gives a result and the progress it has made. What several steps
do is told from what each of them does, wherever it starts.

* `Step.bind_apply`, `Trial.run_bind` — one step after the other.
* `Step.mapM_map`, `Step.foldlM_observe` — a step for every item of a list.
* `Trial.run_ask`, `Trial.run_change` — what is asked of the files, and what is changed.
* `Trial.run_filterMapM` — steps that only read.
-/
import ApkFeatures.Step

namespace ApkFeatures

namespace Step

variable {α β γ State : Type}

theorem bind_apply (first : Step α) (next : α → Step β) (progress : Progress) :
    (first >>= next) progress = next (first progress).1 (first progress).2 := rfl

theorem pure_apply (value : α) (progress : Progress) :
    (pure value : Step α) progress = (value, progress) := rfl

theorem ask_apply (question : FileTree → α) (progress : Progress) :
    ask question progress = (question progress.tree, progress) := rfl

theorem change_apply (action : FileTree → α × FileTree) (progress : Progress) :
    change action progress =
      ((action progress.tree).1, { progress with tree := (action progress.tree).2 }) := rfl

theorem mapM_cons (step : α → Step β) (item : α) (items : List α) (progress : Progress) :
    (item :: items).mapM step progress =
      ((step item progress).1 :: (items.mapM step (step item progress).2).1,
        (items.mapM step (step item progress).2).2) := by
  rw [List.mapM_cons]
  rfl

/-- What is made of every result can be made of all results at the end. -/
theorem mapM_bind_pure (step : α → Step β) (form : β → γ) (items : List α) :
    ∀ progress, items.mapM (fun item => step item >>= fun value => pure (form value)) progress =
      ((items.mapM step progress).1.map form, (items.mapM step progress).2) := by
  induction items with
  | nil => exact fun progress => rfl
  | cons item items ih =>
    intro progress
    rw [mapM_cons, mapM_cons, ih]
    rfl

/-- **What is seen of every result tells what is seen of the results of all items.** -/
theorem mapM_map {step : α → Step β} {seen : β → γ} {expected : α → γ}
    (each : ∀ item progress, seen (step item progress).1 = expected item) (items : List α) :
    ∀ progress, (items.mapM step progress).1.map seen = items.map expected := by
  induction items with
  | nil => exact fun progress => rfl
  | cons item items ih =>
    intro progress
    rw [mapM_cons, List.map_cons, List.map_cons, each, ih]

theorem foldlM_cons (step : State → α → Step State) (start : State) (item : α) (items : List α)
    (progress : Progress) :
    (item :: items).foldlM step start progress =
      items.foldlM step (step start item progress).1 (step start item progress).2 := by
  rw [List.foldlM_cons]
  rfl

/-- **What no item changes is as it was at the start.** -/
theorem foldlM_observe {step : State → α → Step State} {seen : State → γ}
    (each : ∀ state item progress, seen (step state item progress).1 = seen state)
    (items : List α) :
    ∀ start progress, seen (items.foldlM step start progress).1 = seen start := by
  induction items with
  | nil => exact fun start progress => rfl
  | cons item items ih =>
    intro start progress
    rw [foldlM_cons, ih, each]

end Step

namespace Trial

variable {α β : Type}

theorem run_bind (first : Trial α) (next : α → Trial β) (progress : Progress) :
    (first >>= next).run progress =
      match first.run progress with
      | (.ok value, reached) => (next value).run reached
      | (.error failure, reached) => (.error failure, reached) := by
  rw [ExceptT.run_bind, Step.bind_apply]
  cases first.run progress with
  | mk result reached =>
    cases result with
    | ok value => rfl
    | error failure => rfl

theorem run_pure (value : α) (progress : Progress) :
    (pure value : Trial α).run progress = (.ok value, progress) := rfl

theorem run_of (step : Step α) (progress : Progress) :
    (Trial.of step).run progress = (.ok (step progress).1, (step progress).2) := rfl

/-- A trial goes on after a step that does not fail. -/
theorem run_of_bind (step : Step α) (next : α → Trial β) (progress : Progress) :
    (Trial.of step >>= next).run progress = (next (step progress).1).run (step progress).2 := by
  rw [run_bind, run_of]

theorem run_settle_ok (attempt? : Option Attempt) (value : α) (progress : Progress) :
    (settle attempt? (.ok value)).run progress = (.ok value, progress) := rfl

theorem run_ask (attempt? : Option Attempt) (question : FileTree → Except FileTree.Fault α)
    (progress : Progress) :
    (ask attempt? question).run progress =
      (settle attempt? (question progress.tree)).run progress := by
  rw [ask, run_of_bind]
  rfl

theorem run_change (attempt? : Option Attempt)
    (action : FileTree → Except FileTree.Fault Unit × FileTree) (progress : Progress) :
    (change attempt? action).run progress =
      (settle attempt? (action progress.tree).1).run
        { progress with tree := (action progress.tree).2 } := by
  rw [change, run_of_bind]
  rfl

/-- **Steps that only read** give together, item by item, what there is to read. -/
theorem run_filterMapM {step : α → Trial (Option β)} {seen : FileTree → α → Option β}
    (reads : ∀ item progress, ∃ told,
      (step item).run progress = (.ok (seen progress.tree item), { progress with told := told }))
    (items : List α) :
    ∀ progress, ∃ told, (items.filterMapM step).run progress =
      (.ok (items.filterMap (seen progress.tree)), { progress with told := told }) := by
  induction items with
  | nil => exact fun progress => ⟨progress.told, rfl⟩
  | cons item rest ih =>
    intro progress
    obtain ⟨told, first⟩ := reads item progress
    obtain ⟨more, others⟩ := ih { progress with told := told }
    refine ⟨more, ?_⟩
    rw [List.filterMapM_cons, run_bind, first]
    dsimp only at others ⊢
    cases found : seen progress.tree item with
    | none =>
      rw [List.filterMap_cons_none found]
      exact others
    | some value =>
      dsimp only
      rw [List.filterMap_cons_some found, run_bind, others]
      rfl

end Trial

end ApkFeatures
