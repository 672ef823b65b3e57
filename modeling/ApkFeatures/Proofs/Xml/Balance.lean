/-
**What a reader accepts is a forest.**

A reader reports the beginning of an element when it opens one and its end when it closes one, and
it keeps count of the open elements. A document in which one is left open is not accepted. So the
events of an accepted document are those of a forest.

* `Reports`, `moves_step` — what one character makes a reader report.
* `Unfinished` — events of a forest in which some elements are still open.
* `run_forest`, `read_forest`, `parse_forest` — what is reported of a document that is accepted.
-/
import ApkFeatures.Proofs.Xml.Element
import ApkFeatures.Xml.Reader

namespace ApkFeatures.Xml

/-- What can be reported while the number of open elements changes. -/
inductive Reports : Nat → Nat → List Event → Prop where
  /-- Nothing happens. -/
  | nothing (depth : Nat) : Reports depth depth []
  /-- An element begins. -/
  | start (depth : Nat) (name : Name) (attributes : List Attribute) :
    Reports depth (depth + 1) [.start name attributes]
  /-- An element begins and ends. -/
  | empty (depth : Nat) (name : Name) (attributes : List Attribute) :
    Reports depth depth [.start name attributes, .finish]
  /-- The innermost element ends. -/
  | finish (depth : Nat) : Reports (depth + 1) depth [.finish]

/-- If a reader moves on, it reports what it does to the open elements. -/
def Moves (reader : Reader) (outcome : Except Fault Move) : Prop :=
  ∀ move, outcome = .ok move →
    Reports reader.opened.length move.reader.opened.length move.events

/-! ### One character -/

section Moves

variable {reader other : Reader} {α : Type}

/-- A reader that only stands at another place reports nothing. -/
@[simp] theorem moves_goto (place : Place) :
    Moves reader (other.goto place) ↔ Reports reader.opened.length other.opened.length [] := by
  constructor
  · exact fun moves => moves _ rfl
  · rintro reports move ⟨⟩
    exact reports

@[simp] theorem moves_error (fault : Fault) : Moves reader (.error fault) := fun _ given =>
  nomatch given

@[simp] theorem moves_ok (move : Move) :
    Moves reader (.ok move) ↔
      Reports reader.opened.length move.reader.opened.length move.events :=
  ⟨fun moves => moves move rfl, fun reports _ given => Except.ok.inj given ▸ reports⟩

@[simp] theorem moves_ite {condition : Prop} [Decidable condition]
    {first second : Except Fault Move} :
    Moves reader (if condition then first else second) ↔
      (condition → Moves reader first) ∧ (¬ condition → Moves reader second) := by
  by_cases holds : condition <;> simp [holds]

theorem moves_bind {found : Except Fault α} {next : α → Except Fault Move}
    (each : ∀ value, Moves reader (next value)) : Moves reader (found >>= next) := by
  cases found with
  | error fault => exact moves_error fault
  | ok value => exact each value

@[simp] theorem reports_same (depth : Nat) : Reports depth depth [] := .nothing depth

@[simp] theorem opened_afterProlog : reader.afterProlog.opened = reader.opened := rfl

@[simp] theorem opened_declare (name text : String) :
    (reader.declare name text).opened = reader.opened := rfl

end Moves

namespace Reader

variable (reader : Reader) (c : Char)

theorem moves_openElement (tag : Tag) (isEmpty : Bool) :
    Moves reader (reader.openElement tag isEmpty) := by
  unfold openElement
  refine moves_bind fun name => moves_bind fun attributes => ?_
  cases isEmpty with
  | true => exact (moves_ok _).mpr (.empty _ _ _)
  | false => exact (moves_ok _).mpr (.start _ _ _)

theorem moves_closeElement (written : WrittenName) :
    Moves reader (reader.closeElement written) := by
  unfold closeElement
  split
  · exact moves_error _
  · rename_i opened
    refine moves_ite.mpr ⟨fun _ => (moves_ok _).mpr ?_, fun _ => moves_error _⟩
    rw [opened]
    exact .finish _

theorem moves_inTagName (text : List Char) : Moves reader (reader.inTagName text c) := by
  unfold inTagName
  refine moves_ite.mpr ⟨fun _ => by simp, fun _ => moves_bind fun name => ?_⟩
  simp [moves_openElement]

theorem moves_inTagSpace (tag : Tag) : Moves reader (reader.inTagSpace tag c) := by
  simp [inTagSpace, moves_openElement]

theorem moves_inAttributeEnd (tag : Tag) : Moves reader (reader.inAttributeEnd tag c) := by
  simp [inAttributeEnd, moves_openElement]

theorem moves_inClosingName (text : List Char) : Moves reader (reader.inClosingName text c) := by
  unfold inClosingName
  refine moves_ite.mpr ⟨fun _ => by simp, fun _ => moves_bind fun written => ?_⟩
  simp [moves_closeElement]

theorem moves_inAttributeName (tag : Tag) (text : List Char) :
    Moves reader (reader.inAttributeName tag text c) := by
  unfold inAttributeName
  refine moves_ite.mpr ⟨fun _ => by simp, fun _ => ?_⟩
  split <;> simp

theorem moves_inAttributeValue (value : OpenValue) (less : Bool) :
    Moves reader (reader.inAttributeValue value less c) := by
  unfold inAttributeValue
  simp only [moves_ite]
  refine ⟨fun _ => moves_error _, fun _ => ⟨fun _ => moves_bind fun tag => ?_, fun _ => ?_⟩⟩ <;> simp

theorem moves_inReference (name : List Char) (value? : Option OpenValue) :
    Moves reader (reader.inReference name value? c) := by
  have after (value? : Option OpenValue) (shown : List Char) :
      Moves reader (reader.afterCharacter value? shown) := by
    cases value? <;> simp [afterCharacter]
  unfold inReference
  simp only [moves_ite]
  refine ⟨fun _ => by simp, fun _ => ⟨fun _ => moves_error _, fun _ => ?_⟩⟩
  split
  · split <;> simp [after]
  · split <;> simp [after]

theorem moves_inFieldValue (field : Field) (quote : Char) (text : List Char) :
    Moves reader (reader.inFieldValue field quote text c) := by
  have set (value : String) : Moves reader (reader.setField field value) := by
    unfold setField
    cases field with
    | version => simp
    | encoding => exact moves_bind fun encoding => by simp
    | standalone => simp
  simp [inFieldValue, set]

theorem moves_inDeclaration (last? : Option Field) (spaced : Bool) :
    Moves reader (reader.inDeclaration last? spaced c) := by
  unfold inDeclaration
  simp only [moves_ite]
  refine ⟨fun _ => by simp, fun _ => ⟨fun _ => by simp, fun _ => ⟨fun _ => ?_, fun _ => by simp⟩⟩⟩
  split <;> simp

theorem moves_inKeyword {expected : List Char} {again : List Char → Place}
    {done : Except Fault Move} (moves : Moves reader done) :
    Moves reader (reader.inKeyword expected again done c) := by
  unfold inKeyword
  split <;> simp [moves]

theorem moves_inEntityNumber (entity : OpenEntity) (number : List Char) :
    Moves reader (reader.inEntityNumber entity number c) := by
  unfold inEntityNumber
  simp only [moves_ite]
  refine ⟨fun _ => by simp, fun _ => ⟨fun _ => ?_, fun _ => by simp⟩⟩
  split <;> simp

theorem moves_inEntityParameter (entity : OpenEntity) (name : List Char) :
    Moves reader (reader.inEntityParameter entity name c) := by
  unfold inEntityParameter
  simp only [moves_ite]
  refine ⟨fun _ => by simp, fun _ => ⟨fun _ => ?_, fun _ => by simp⟩⟩
  split <;> simp

theorem moves_inParameterReference (name : List Char) :
    Moves reader (reader.inParameterReference name c) := by
  unfold inParameterReference
  simp only [moves_ite]
  refine ⟨fun _ => by simp, fun _ => ⟨fun _ => ?_, fun _ => by simp⟩⟩
  split <;> simp

theorem moves_inRuleRest (quote? : Option Char) : Moves reader (reader.inRuleRest quote? c) := by
  unfold inRuleRest
  cases quote? <;> simp

-- The keywords that may follow are not to be spelled out.
theorem moves_inBang : Moves reader (reader.inBang c) := by
  simp only [inBang, moves_ite, moves_goto, moves_error, reports_same, implies_true, and_self]

/-- **What one character makes a reader report** is what it does to the open elements. -/
theorem moves_step : Moves reader (reader.step c) := by
  unfold step
  split <;> simp [inContent, inMarkup, inComment, inCdata, inInstructionName,
    inInstructionNameEnd, inInstruction, inFieldName, inDoctype, inDoctypeMarkup, inDoctypeBang,
    inRuleName, inEntityNameStart, inParameterNameStart, inEntityName, inEntityValueStart,
    inEntityValue, inEntityReference, moves_openElement, moves_closeElement, moves_inTagName,
    moves_inTagSpace, moves_inAttributeEnd, moves_inClosingName, moves_inAttributeName,
    moves_inAttributeValue, moves_inReference, moves_inFieldValue, moves_inDeclaration,
    moves_inBang, moves_inKeyword, moves_inEntityNumber, moves_inEntityParameter,
    moves_inParameterReference, moves_inRuleRest]

end Reader

/-! ### Whole documents -/

theorem events_append (forest others : List Element) :
    events (forest ++ others) = events forest ++ events others := by
  induction forest with
  | nil => rw [events, List.nil_append, List.nil_append]
  | cons element siblings ih =>
    obtain ⟨name, attributes, children⟩ := element
    rw [List.cons_append, events, events, ih]
    simp only [List.cons_append, List.append_assoc]

theorem events_singleton (element : Element) : events [element] =
    .start element.name element.attributes :: (events element.children ++ [.finish]) := by
  obtain ⟨name, attributes, children⟩ := element
  rw [events, events]

/-- Events of a forest in which some elements, each inside the one before, are still open. -/
inductive Unfinished : Nat → List Event → Prop where
  /-- All elements are closed. -/
  | whole (forest : List Element) : Unfinished 0 (events forest)
  /-- After an open element, the elements inside it follow. -/
  | inside {depth : Nat} {before : List Event} (outside : Unfinished depth before) (name : Name)
      (attributes : List Attribute) (children : List Element) :
    Unfinished (depth + 1) (before ++ .start name attributes :: events children)

theorem Unfinished.forest {reported : List Event} (unfinished : Unfinished 0 reported) :
    ∃ forest, reported = events forest := by
  cases unfinished with
  | whole forest => exact ⟨forest, rfl⟩

/-- A whole element can follow. -/
theorem Unfinished.append {depth : Nat} {reported : List Event}
    (unfinished : Unfinished depth reported) (element : Element) :
    Unfinished depth (reported ++ events [element]) := by
  cases unfinished with
  | whole forest =>
    rw [← events_append]
    exact .whole _
  | inside outside name attributes children =>
    rw [List.append_assoc, List.cons_append, ← events_append]
    exact .inside outside name attributes _

/-- **What is reported next leaves the events of a forest.** -/
theorem Unfinished.reports {depth after : Nat} {reported more : List Event}
    (unfinished : Unfinished depth reported) (reports : Reports depth after more) :
    Unfinished after (reported ++ more) := by
  cases reports with
  | nothing =>
    rw [List.append_nil]
    exact unfinished
  | start _ name attributes =>
    have opened := Unfinished.inside unfinished name attributes []
    rw [events] at opened
    exact opened
  | empty _ name attributes =>
    have element := unfinished.append ⟨name, attributes, []⟩
    rw [events_singleton, events] at element
    exact element
  | finish =>
    cases unfinished with
    | inside outside name attributes children =>
      have element := outside.append ⟨name, attributes, children⟩
      rw [events_singleton] at element
      rw [List.append_assoc]
      exact element

/-- **A reader that comes to the end of a document has reported a forest.** -/
theorem run_forest {reader : Reader} {source : Source} {reported all : List Event}
    (accepted : run reader source reported = (all, none))
    (unfinished : Unfinished reader.opened.length reported.reverse) :
    ∃ forest, all = events forest := by
  fun_induction run reader source reported with
  | case1 => cases accepted
  | case2 reader source reported ended =>
    obtain ⟨rfl, given⟩ := Prod.mk.inj accepted
    have mayEnd : reader.mayEnd = true := by
      cases mayEnd : reader.mayEnd with
      | true => rfl
      | false =>
        rw [mayEnd] at given
        cases given
    have closed : reader.opened.length = 0 := by
      unfold Reader.mayEnd at mayEnd
      split at mayEnd
      · simp_all
      · cases mayEnd
    rw [closed] at unfinished
    exact unfinished.forest
  | case3 => cases accepted
  | case4 => cases accepted
  | case5 reader source reported c after read move moved source' expanded smaller ih =>
    refine ih accepted ?_
    rw [List.reverse_append, List.reverse_reverse]
    exact unfinished.reports (reader.moves_step c move moved)

/-- **The events of a document that is accepted are those of a forest.** -/
theorem read_forest {text : List Char} {reported : List Event}
    (accepted : read text = (reported, none)) : ∃ forest, reported = events forest := by
  have start : Unfinished 0 [] := by
    have whole := Unfinished.whole []
    rwa [events] at whole
  unfold read at accepted
  split at accepted
  · exact run_forest accepted start
  · split at accepted
    · exact run_forest accepted start
    · exact run_forest accepted start

/-- **This reader delivers the elements of every document that it accepts.** -/
theorem parse_forest {text : List Char} (accepted : (parse text).2 = none) :
    ∃ forest, parse text = (events forest, none) := by
  have sound : (read text).2 = none := Option.map_eq_none_iff.mp accepted
  obtain ⟨forest, reported⟩ := @read_forest text _ (Prod.ext rfl sound)
  exact ⟨forest, Prod.ext reported accepted⟩

end ApkFeatures.Xml
