/-
**Which declarations a manifest has.**

The scan is a loop over events with a stack of the elements that are open, and it changes a feature
only when its value grows. Neither the stack nor the order in which declarations are met shows in
the result: an action has the largest code of all declarations of it in the tree of elements.

* `Scan.foldl_events` — the events of a forest leave the stack as it was and note the declarations of
  the forest.
* `mem_declarations_iff`, `mem_declarations_roots_iff` — what these declarations are.
* `foldl_raise_isLargest`, `foldl_raise_perm` — what noting them makes of the features.
* `intents_spec` — the features of a document, for any reader that delivers its elements.
-/
import Mathlib
import ApkFeatures.Manifest.Intents
import ApkFeatures.Proofs.Feature
import ApkFeatures.Proofs.Xml.Element
import ApkFeatures.Xml.Reader

namespace ApkFeatures.Manifest

open Xml

/-! ### Declarations of a forest -/

/-- What an element declares by itself, by the elements around it. -/
def declaration? (name : Xml.Name) (attributes : List Xml.Attribute) (around : List Xml.Name) :
    Option (String × Component) :=
  match declaring? name around, namedBy? attributes with
  | some component, some action => some (action, component)
  | _, _ => none

/-- The declarations of a forest, in document order, by the elements around it. -/
def declarations (around : List Xml.Name) : List Element → List (String × Component)
  | [] => []
  | ⟨name, attributes, children⟩ :: siblings =>
    (declaration? name attributes around).toList ++
      (declarations (name :: around) children ++ declarations around siblings)

/-- Raises the value of an action to the code of a component that declares it. -/
def raise (features : FeatureVector Vocabulary.intentActions) (declared : String × Component) :
    FeatureVector Vocabulary.intentActions :=
  match features.get? declared.1 with
  | none => features
  | some current =>
    if current < declared.2.code then features.set declared.1 declared.2.code else features

namespace Scan

/-- Notes declarations, one after the other. -/
def declareAll (scan : Scan) (declared : List (String × Component)) : Scan :=
  declared.foldl (fun scan one => scan.declare one.1 one.2) scan

theorem declareAll_append (scan : Scan) (declared more : List (String × Component)) :
    scan.declareAll (declared ++ more) = (scan.declareAll declared).declareAll more :=
  List.foldl_append

/-- Noting a declaration does not look at the open elements. -/
theorem declare_opened (scan : Scan) (opened : List Xml.Name) (action : String)
    (component : Component) :
    ({ scan with opened } : Scan).declare action component =
      { scan.declare action component with opened } := by
  unfold declare
  dsimp only
  split
  · rfl
  · split <;> rfl

theorem declareAll_opened (scan : Scan) (opened : List Xml.Name)
    (declared : List (String × Component)) :
    ({ scan with opened } : Scan).declareAll declared =
      { scan.declareAll declared with opened } := by
  unfold declareAll
  induction declared generalizing scan with
  | nil => rfl
  | cons one declared ih => rw [List.foldl_cons, List.foldl_cons, declare_opened, ih]

theorem opened_declareAll (scan : Scan) (declared : List (String × Component)) :
    (scan.declareAll declared).opened = scan.opened := by
  have kept := congrArg Scan.opened (declareAll_opened scan scan.opened declared)
  exact kept

theorem features_declare (scan : Scan) (action : String) (component : Component) :
    (scan.declare action component).features = raise scan.features (action, component) := by
  unfold declare raise
  dsimp only
  cases scan.features.get? action with
  | none => rfl
  | some current =>
    dsimp only
    split <;> rfl

theorem features_declareAll (scan : Scan) (declared : List (String × Component)) :
    (scan.declareAll declared).features = declared.foldl raise scan.features := by
  unfold declareAll
  induction declared generalizing scan with
  | nil => rfl
  | cons one declared ih => rw [List.foldl_cons, ih, features_declare, List.foldl_cons]

theorem step_start (scan : Scan) (name : Xml.Name) (attributes : List Xml.Attribute) :
    scan.step (.start name attributes) =
      { scan.declareAll (declaration? name attributes scan.opened).toList with
        opened := name :: scan.opened } := by
  unfold step declaration?
  dsimp only
  cases declaring? name scan.opened with
  | none => rfl
  | some component =>
    cases namedBy? attributes with
    | none => rfl
    | some action => rfl

/-- **The events of a forest leave the open elements as they were** and note the declarations of the
forest. An element is open while the events of its children are taken and no longer after them. -/
theorem foldl_events (forest : List Element) (scan : Scan) :
    (events forest).foldl step scan = scan.declareAll (declarations scan.opened forest) := by
  induction forest using events.induct generalizing scan with
  | case1 => simp [events, declarations, declareAll]
  | case2 name attributes children siblings inside beside =>
    rw [events, declarations, declareAll_append, declareAll_append, List.foldl_cons,
      List.foldl_append, List.foldl_cons, step_start, inside, declareAll_opened]
    have closed : ∀ after : Scan, after.opened = scan.opened →
        ({ after with opened := name :: scan.opened } : Scan).step .finish = after :=
      fun after same => by rw [← same]; rfl
    rw [closed _ (by rw [opened_declareAll, opened_declareAll]), beside, opened_declareAll,
      opened_declareAll]

end Scan

theorem features_scan (forest : List Element) :
    (scan (events forest)).features =
      (declarations [] forest).foldl raise (FeatureVector.zero Vocabulary.intentActions) := by
  unfold scan
  rw [Scan.foldl_events, Scan.features_declareAll]
  rfl

/-! ### What is declared -/

theorem namedBy?_eq_some_iff {attributes : List Xml.Attribute} {action : String} :
    namedBy? attributes = some action ↔ ∃ before after,
      attributes = before ++ ⟨nameAttribute, action⟩ :: after ∧
        ∀ earlier ∈ before, earlier.name ≠ nameAttribute := by
  unfold namedBy?
  simp only [Option.map_eq_some_iff, List.find?_eq_some_iff_append, decide_eq_true_eq,
    Bool.not_eq_true', decide_eq_false_iff_not]
  constructor
  · rintro ⟨⟨_, _⟩, ⟨rfl, before, after, split, unnamed⟩, rfl⟩
    exact ⟨before, after, split, unnamed⟩
  · rintro ⟨before, after, split, unnamed⟩
    exact ⟨⟨nameAttribute, action⟩, ⟨rfl, before, after, split, unnamed⟩, rfl⟩

theorem Component.ofElement?_eq_some_iff {name : Xml.Name} {component : Component} :
    Component.ofElement? name = some component ↔ name = component.element := by
  unfold Component.ofElement?
  constructor
  · intro found
    have same := List.find?_some found
    exact (of_decide_eq_true same).symm
  · rintro rfl
    cases component <;> decide

theorem declaring?_eq_some_iff {name : Xml.Name} {around : List Xml.Name} {component : Component} :
    declaring? name around = some component ↔ name = ⟨none, "action"⟩ ∧ ∃ outer further,
      around = ⟨none, "intent-filter"⟩ :: component.element :: outer :: further := by
  unfold declaring?
  split
  · rename_i filter host outer further
    rw [Option.ite_none_right_eq_some, Component.ofElement?_eq_some_iff]
    constructor
    · rintro ⟨⟨rfl, rfl⟩, rfl⟩
      exact ⟨rfl, outer, further, rfl⟩
    · rintro ⟨rfl, _, _, same⟩
      injection same with filter rest
      injection rest with host
      exact ⟨⟨rfl, filter⟩, host⟩
  · rename_i few
    simp only [reduceCtorEq, false_iff]
    rintro ⟨-, outer, further, rfl⟩
    exact few _ _ _ _ rfl

/-- **The declarations are those of the elements**, each amid the elements around it. -/
theorem mem_declarations_iff {forest : List Element} {around : List Xml.Name}
    {declared : String × Component} :
    declared ∈ declarations around forest ↔ ∃ above element, Occurs forest above element ∧
      declaration? element.name element.attributes (above.map Element.name ++ around) =
        some declared := by
  induction forest using events.induct generalizing around with
  | case1 =>
    simp only [declarations, List.not_mem_nil, false_iff]
    rintro ⟨above, element, occurs, -⟩
    exact not_occurs_nil occurs
  | case2 name attributes children siblings inside beside =>
    rw [declarations, List.mem_append, List.mem_append, inside, beside, Option.mem_toList]
    simp only [occurs_cons_iff]
    constructor
    · rintro (own | ⟨inner, element, occurs, given⟩ | ⟨above, element, occurs, given⟩)
      · exact ⟨[], _, Or.inl ⟨rfl, rfl⟩, own⟩
      · refine ⟨_, element, Or.inr (Or.inl ⟨inner, rfl, occurs⟩), ?_⟩
        simpa using given
      · exact ⟨above, element, Or.inr (Or.inr occurs), given⟩
    · rintro ⟨_, element, ⟨rfl, rfl⟩ | ⟨inner, rfl, occurs⟩ | occurs, given⟩
      · exact Or.inl given
      · exact Or.inr (Or.inl ⟨inner, element, occurs, by simpa using given⟩)
      · exact Or.inr (Or.inr ⟨_, element, occurs, given⟩)

/-- **A declaration of an action in a forest**: an `action` element that its first `name` attribute
in the namespace of the platform names so, directly inside of an `intent-filter` directly inside of
the element of a component, which is inside of another element. None of the three has a
namespace. -/
def Declares (forest : List Element) (action : String) (component : Component) : Prop :=
  ∃ outer host filter declared, IsWithin forest outer ∧ host ∈ outer.children ∧
    filter ∈ host.children ∧ declared ∈ filter.children ∧ host.name = component.element ∧
      filter.name = ⟨none, "intent-filter"⟩ ∧ declared.name = ⟨none, "action"⟩ ∧
        ∃ before after, declared.attributes = before ++ ⟨nameAttribute, action⟩ :: after ∧
          ∀ earlier ∈ before, earlier.name ≠ nameAttribute

theorem declaration?_eq_some_iff {name : Xml.Name} {attributes : List Xml.Attribute}
    {around : List Xml.Name} {action : String} {component : Component} :
    declaration? name attributes around = some (action, component) ↔
      declaring? name around = some component ∧ namedBy? attributes = some action := by
  unfold declaration?
  cases declaring? name around with
  | none => simp
  | some host =>
    cases namedBy? attributes with
    | none => simp
    | some named => simp [and_comm]

/-- **What is declared in the whole forest.** -/
theorem mem_declarations_roots_iff {forest : List Element} {action : String}
    {component : Component} :
    (action, component) ∈ declarations [] forest ↔ Declares forest action component := by
  simp only [mem_declarations_iff, declaration?_eq_some_iff, declaring?_eq_some_iff,
    namedBy?_eq_some_iff, List.append_nil]
  constructor
  · rintro ⟨above, declared, occurs, ⟨isAction, outerName, further, path⟩, named⟩
    obtain ⟨filter, around, rfl, isFilter, path⟩ := List.map_eq_cons_iff.mp path
    obtain ⟨host, around, rfl, isHost, path⟩ := List.map_eq_cons_iff.mp path
    obtain ⟨outer, around, rfl, -, -⟩ := List.map_eq_cons_iff.mp path
    obtain ⟨occurs, inFilter⟩ := occurs.of_cons
    obtain ⟨occurs, inHost⟩ := occurs.of_cons
    obtain ⟨occurs, inOuter⟩ := occurs.of_cons
    exact ⟨outer, host, filter, declared, ⟨around, occurs⟩, inOuter, inHost, inFilter, isHost,
      isFilter, isAction, named⟩
  · rintro ⟨outer, host, filter, declared, ⟨around, occurs⟩, inOuter, inHost, inFilter, isHost,
      isFilter, isAction, named⟩
    refine ⟨filter :: host :: outer :: around, declared,
      ((occurs.child inOuter).child inHost).child inFilter, ⟨isAction, outer.name,
        around.map Element.name, ?_⟩, named⟩
    rw [List.map_cons, List.map_cons, List.map_cons, isFilter, isHost]

/-! ### The largest code -/

/-- **The largest code of the declarations of an action**, or zero if there are none. -/
structure IsLargestCode (forest : List Element) (action : String) (code : UInt8) : Prop where
  /-- No declaration has a larger code. -/
  bound : ∀ component, Declares forest action component → component.code ≤ code
  /-- A declaration has the code, or there are none. -/
  attained : (∃ component, Declares forest action component ∧ component.code = code) ∨
    (∀ component, ¬ Declares forest action component) ∧ code = 0

theorem IsLargestCode.unique {forest : List Element} {action : String} {code other : UInt8}
    (largest : IsLargestCode forest action code) (also : IsLargestCode forest action other) :
    code = other := by
  rcases largest.attained with ⟨component, declares, rfl⟩ | ⟨none, rfl⟩
  · rcases also.attained with ⟨component', declares', rfl⟩ | ⟨none, -⟩
    · exact UInt8.le_antisymm (also.bound _ declares) (largest.bound _ declares')
    · exact absurd declares (none component)
  · rcases also.attained with ⟨component', declares', -⟩ | ⟨-, rfl⟩
    · exact absurd declares' (none component')
    · rfl

/-- The larger of two codes. -/
def largerCode (current code : UInt8) : UInt8 := if current < code then code else current

theorem largerCode_le_iff {current code bound : UInt8} :
    largerCode current code ≤ bound ↔ current ≤ bound ∧ code ≤ bound := by
  unfold largerCode
  grind

theorem largerCode_eq_or (current code : UInt8) :
    largerCode current code = current ∨ largerCode current code = code := by
  unfold largerCode
  grind

theorem largerCode_right_comm (current code other : UInt8) :
    largerCode (largerCode current code) other = largerCode (largerCode current other) code := by
  unfold largerCode
  grind

/-- **One declaration raises the value of its action, and no other.** -/
theorem get?_raise {key : String} (known : key ∈ Vocabulary.intentActions.keys)
    (features : FeatureVector Vocabulary.intentActions) (action : String) (component : Component) :
    (raise features (action, component)).get? key =
      if action = key then (features.get? key).map (largerCode · component.code)
      else features.get? key := by
  unfold raise
  dsimp only
  cases found : features.get? action with
  | none =>
    have different : action ≠ key := by
      rintro rfl
      obtain ⟨column, placed⟩ := Vocabulary.exists_position? known
      unfold FeatureVector.get? at found
      rw [placed] at found
      cases found
    rw [if_neg different]
  | some current =>
    dsimp only
    split_ifs with less same same
    · subst same
      rw [FeatureVector.get?_set known, if_pos rfl, found, Option.map_some, largerCode,
        if_pos less]
    · rw [FeatureVector.get?_set known, if_neg same]
    · subst same
      rw [found, Option.map_some, largerCode, if_neg less]
    · rfl

/-- **The largest code is kept**: what noting declarations leaves is the largest of what there was
and of the codes that were declared. -/
theorem get?_foldl_raise {key : String} (known : key ∈ Vocabulary.intentActions.keys)
    (declared : List (String × Component)) (features : FeatureVector Vocabulary.intentActions)
    {current : UInt8} (before : features.get? key = some current) :
    ∃ code, (declared.foldl raise features).get? key = some code ∧ current ≤ code ∧
      (∀ component, (key, component) ∈ declared → component.code ≤ code) ∧
        (code = current ∨ ∃ component, (key, component) ∈ declared ∧ component.code = code) := by
  induction declared generalizing features current with
  | nil => exact ⟨current, before, UInt8.le_refl _, by simp, Or.inl rfl⟩
  | cons one declared ih =>
    obtain ⟨action, component⟩ := one
    have raised := get?_raise known features action component
    rw [before, Option.map_some] at raised
    by_cases same : action = key
    · subst same
      rw [if_pos rfl] at raised
      obtain ⟨code, after, larger, bound, attained⟩ := ih _ raised
      have least := largerCode_le_iff.mp larger
      refine ⟨code, after, least.1, fun other member => ?_, ?_⟩
      · rcases List.mem_cons.mp member with first | later
        · cases first
          exact least.2
        · exact bound other later
      · rcases attained with rfl | ⟨other, member, rfl⟩
        · rcases largerCode_eq_or current component.code with kept | new
          · exact Or.inl kept
          · exact Or.inr ⟨component, List.mem_cons_self, new.symm⟩
        · exact Or.inr ⟨other, List.mem_cons_of_mem _ member, rfl⟩
    · rw [if_neg same] at raised
      obtain ⟨code, after, larger, bound, attained⟩ := ih _ raised
      refine ⟨code, after, larger, fun other member => ?_, ?_⟩
      · rcases List.mem_cons.mp member with first | later
        · cases first
          exact absurd rfl same
        · exact bound other later
      · exact attained.imp id fun ⟨other, member, value⟩ =>
          ⟨other, List.mem_cons_of_mem _ member, value⟩

/-- **The largest code of the declarations of a forest is the value of the action.** -/
theorem get?_features_scan {forest : List Element} {action : String} {code : UInt8}
    (known : action ∈ Vocabulary.intentActions.keys) :
    (scan (events forest)).features.get? action = some code ↔
      IsLargestCode forest action code := by
  obtain ⟨largest, found, -, bound, attained⟩ :=
    get?_foldl_raise known (declarations [] forest) _ (FeatureVector.get?_zero known)
  simp only [mem_declarations_roots_iff] at bound attained
  have isLargest : IsLargestCode forest action largest := by
    refine ⟨bound, ?_⟩
    rcases attained with rfl | declared
    · refine Or.inr ⟨fun component declares => ?_, rfl⟩
      have none := bound component declares
      cases component <;> exact absurd none (by decide)
    · exact Or.inl declared
  rw [features_scan, found]
  constructor
  · rintro same
    exact Option.some.inj same ▸ isLargest
  · intro also
    rw [isLargest.unique also]

/-! ### The order of siblings -/

theorem raise_eq (features : FeatureVector Vocabulary.intentActions)
    (declared : String × Component) :
    raise features declared = match Vocabulary.intentActions.position? declared.1 with
      | none => features
      | some column => ⟨features.values.set column
          (largerCode features.values[column] declared.2.code)⟩ := by
  unfold raise FeatureVector.get? FeatureVector.set FeatureVector.set? largerCode
  cases Vocabulary.intentActions.position? declared.1 with
  | none => rfl
  | some column =>
    simp only [Option.map_some, Option.getD_some]
    split
    · rfl
    · simp

/-- **Two declarations can be noted in either order.** -/
theorem raise_right_comm (features : FeatureVector Vocabulary.intentActions)
    (first second : String × Component) :
    raise (raise features first) second = raise (raise features second) first := by
  simp only [raise_eq]
  cases Vocabulary.intentActions.position? first.1 with
  | none => rfl
  | some column =>
    cases Vocabulary.intentActions.position? second.1 with
    | none => rfl
    | some other =>
      by_cases same : column = other
      · subst same
        simp [largerCode_right_comm]
      · have apart : column.val ≠ other.val := fun equal => same (Fin.ext equal)
        simp [apart, apart.symm, Vector.set_comm _ _ apart]

theorem foldl_raise_perm {declared others : List (String × Component)}
    (perm : declared.Perm others) (features : FeatureVector Vocabulary.intentActions) :
    declared.foldl raise features = others.foldl raise features :=
  perm.foldl_eq' (fun first _ second _ features => raise_right_comm features first second) features

theorem declarations_cons (around : List Xml.Name) (root : Element) (siblings : List Element) :
    declarations around (root :: siblings) =
      declarations around [root] ++ declarations around siblings := by
  obtain ⟨name, attributes, children⟩ := root
  simp only [declarations, List.append_nil, List.append_assoc]

/-- **Reordered siblings declare the same**, in another order. -/
theorem declarations_perm {forest others : List Element} (reordered : Reordered forest others)
    (around : List Xml.Name) : (declarations around forest).Perm (declarations around others) := by
  induction reordered generalizing around with
  | nil => exact .refl _
  | cons name attributes inside beside inner outer =>
    rw [declarations, declarations]
    exact .append_left _ ((inner _).append (outer _))
  | swap first second siblings =>
    rw [declarations_cons _ first (second :: siblings), declarations_cons _ second siblings,
      declarations_cons _ second (first :: siblings), declarations_cons _ first siblings]
    exact List.perm_append_comm_assoc _ _ _
  | trans _ _ one two => exact (one around).trans (two around)

/-- **The features of a document**, whatever reader delivers its elements. An action of the
vocabulary has the largest code of its declarations in the forest that is delivered. A document with
siblings in another order has the same features. -/
theorem intents_spec (parser : Xml.Parser) {text : List Char} {forest : List Element}
    (delivered : parser text = (events forest, none)) :
    ∃ features, intents parser text = .ok features ∧
      (∀ action ∈ Vocabulary.intentActions.keys, ∀ code,
        features.get? action = some code ↔ IsLargestCode forest action code) ∧
      ∀ other others, Reordered forest others → parser other = (events others, none) →
        intents parser other = .ok features := by
  refine ⟨(scan (events forest)).features, ?_, fun action known code => get?_features_scan known,
    fun other others reordered also => ?_⟩
  · unfold intents
    rw [delivered]
  · unfold intents
    rw [also]
    refine congrArg Except.ok ?_
    rw [features_scan, features_scan, foldl_raise_perm (declarations_perm reordered [])]

/-- A manifest with some components. -/
def manifestOf (components : String) : List Char :=
  ("<a xmlns:n=\"http://schemas.android.com/apk/res/android\">" ++ components ++ "</a>").toList

/-- A service that declares an action, as it is written. -/
def writtenService : String :=
  "<service><intent-filter><action n:name=\"android.intent.action.MAIN\"/></intent-filter></service>"

/-- The action that the service declares. -/
def mainAction : Element :=
  ⟨⟨none, "action"⟩, [⟨nameAttribute, "android.intent.action.MAIN"⟩], []⟩

/-- The intent filter of the service. -/
def mainFilter : Element := ⟨⟨none, "intent-filter"⟩, [], [mainAction]⟩

/-- The service. -/
def mainService : Element := ⟨⟨none, "service"⟩, [], [mainFilter]⟩

/-- Another element. -/
def plainElement : Element := ⟨⟨none, "b"⟩, [], []⟩

section Sample

set_option maxRecDepth 4000

theorem parse_serviceLast : Xml.parse (manifestOf ("<b/>" ++ writtenService)) =
    (events [⟨⟨none, "a"⟩, [], [plainElement, mainService]⟩], none) := by
  cbv

theorem parse_serviceFirst : Xml.parse (manifestOf (writtenService ++ "<b/>")) =
    (events [⟨⟨none, "a"⟩, [], [mainService, plainElement]⟩], none) := by
  cbv

end Sample

/-- A service that declares an action, behind another element and before it. -/
theorem intents_spec_sample :
    ∃ features, intents Xml.parse (manifestOf ("<b/>" ++ writtenService)) = .ok features ∧
      features.get? "android.intent.action.MAIN" = some 12 ∧
      intents Xml.parse (manifestOf (writtenService ++ "<b/>")) = .ok features := by
  obtain ⟨features, found, value, reordered⟩ := intents_spec Xml.parse parse_serviceLast
  have known : "android.intent.action.MAIN" ∈ Vocabulary.intentActions.keys := List.mem_cons_self
  refine ⟨features, found,
    (value _ known 12).mpr ⟨fun component _ => ?_, Or.inl ⟨.service, ?_, rfl⟩⟩, ?_⟩
  · cases component <;> decide
  · exact ⟨_, mainService, mainFilter, mainAction, ⟨[], .root List.mem_cons_self⟩,
      List.mem_cons_of_mem _ List.mem_cons_self, List.mem_cons_self, List.mem_cons_self, rfl, rfl,
      rfl, [], [], rfl, by simp⟩
  · exact reordered _ _ (.cons _ _ (.swap plainElement mainService []) .nil) parse_serviceFirst

end ApkFeatures.Manifest
