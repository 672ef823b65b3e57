/-
**Documents as trees of elements.**

A reader reports a document as a sequence of events. Behind a sequence in which every element that
begins also ends stands a forest: the root elements in their order, each with the elements inside it.

* `events` — what a reader reports of a forest.
* `Occurs`, `IsWithin` — the elements of a forest, at any depth.
* `Reordered` — the same forest but for the order of siblings.
-/
import ApkFeatures.Xml.Event

namespace ApkFeatures.Xml

/-- An element with the elements inside it. -/
structure Element where
  /-- Its name. -/
  name : Name
  /-- Its attributes. -/
  attributes : List Attribute
  /-- The elements directly inside, in document order. -/
  children : List Element

/-- What a reader reports of a forest. -/
def events : List Element → List Event
  | [] => []
  | ⟨name, attributes, children⟩ :: siblings =>
    .start name attributes :: (events children ++ .finish :: events siblings)

/-- **An element of a forest, amid the elements around it**, the innermost first. -/
inductive Occurs (forest : List Element) : List Element → Element → Prop where
  /-- A root has nothing around it. -/
  | root {element : Element} (member : element ∈ forest) : Occurs forest [] element
  /-- A child has its parent around it, and what is around that. -/
  | child {around : List Element} {parent element : Element} (occurs : Occurs forest around parent)
      (member : element ∈ parent.children) : Occurs forest (parent :: around) element

/-- An element of a forest, at any depth. -/
def IsWithin (forest : List Element) (element : Element) : Prop :=
  ∃ around, Occurs forest around element

/-- **Siblings in another order**, the roots and those inside of any element. -/
inductive Reordered : List Element → List Element → Prop where
  /-- There is nothing to reorder. -/
  | nil : Reordered [] []
  /-- The first element stays, with its children reordered, and so are its siblings. -/
  | cons {children children' siblings siblings' : List Element} (name : Name)
      (attributes : List Attribute) (inside : Reordered children children')
      (beside : Reordered siblings siblings') :
      Reordered (⟨name, attributes, children⟩ :: siblings)
        (⟨name, attributes, children'⟩ :: siblings')
  /-- The first two elements change places. -/
  | swap (first second : Element) (siblings : List Element) :
      Reordered (first :: second :: siblings) (second :: first :: siblings)
  /-- One order after another. -/
  | trans {forest forest' forest'' : List Element} (one : Reordered forest forest')
      (two : Reordered forest' forest'') : Reordered forest forest''

/-! ### Where elements occur -/

theorem not_occurs_nil {around : List Element} {element : Element} :
    ¬ Occurs [] around element := by
  intro occurs
  induction occurs with
  | root member => exact absurd member List.not_mem_nil
  | child _ _ ih => exact ih

/-- The innermost element around another is its parent. -/
theorem Occurs.of_cons {forest around : List Element} {parent element : Element}
    (occurs : Occurs forest (parent :: around) element) :
    Occurs forest around parent ∧ element ∈ parent.children := by
  cases occurs with
  | child occurs member => exact ⟨occurs, member⟩

theorem Occurs.mono {forest larger around : List Element} {element : Element}
    (included : ∀ root ∈ forest, root ∈ larger) (occurs : Occurs forest around element) :
    Occurs larger around element := by
  induction occurs with
  | root member => exact .root (included _ member)
  | child _ member ih => exact ih.child member

/-- What is inside of a root has the root around it, on the outside. -/
theorem Occurs.inside {forest around : List Element} {root element : Element}
    (member : root ∈ forest) (occurs : Occurs root.children around element) :
    Occurs forest (around ++ [root]) element := by
  induction occurs with
  | root inner => exact (Occurs.root member).child inner
  | child _ inner ih => exact ih.child inner

/-- **The first root, what is inside of it, and what occurs in the rest of the forest.** -/
theorem occurs_cons_iff {root : Element} {siblings around : List Element} {element : Element} :
    Occurs (root :: siblings) around element ↔
      around = [] ∧ element = root ∨
        (∃ inner, around = inner ++ [root] ∧ Occurs root.children inner element) ∨
          Occurs siblings around element := by
  constructor
  · intro occurs
    induction occurs with
    | root member =>
      rcases List.mem_cons.mp member with rfl | later
      · exact Or.inl ⟨rfl, rfl⟩
      · exact Or.inr (Or.inr (.root later))
    | @child around parent element _ member ih =>
      rcases ih with ⟨rfl, rfl⟩ | ⟨inner, rfl, inside⟩ | beside
      · exact Or.inr (Or.inl ⟨[], rfl, .root member⟩)
      · exact Or.inr (Or.inl ⟨parent :: inner, rfl, inside.child member⟩)
      · exact Or.inr (Or.inr (beside.child member))
  · rintro (⟨rfl, rfl⟩ | ⟨inner, rfl, inside⟩ | beside)
    · exact .root List.mem_cons_self
    · exact inside.inside List.mem_cons_self
    · exact beside.mono fun _ member => List.mem_cons_of_mem _ member

end ApkFeatures.Xml
