/-
**Serialization stops at the first path that is no text.**

A serializer meets the parts of a value one after the other, and what it writes for one of them
depends on those before it only. So if it refuses a path that is no text, it has written what it
writes of the same value with a text in that place, up to that text.

* `JsonValue.paths`, `JsonValue.mapPaths` — the paths in a value, and the value with other paths.
* `JsonValue.visits_mapPaths` — what is met in it.
* `JsonValue.StopsAt`, `JsonValue.exists_stopsAt` — what is met before the first broken path.
* `Serializer.IsLawful` — what is asked of a serializer.
* `Serializer.serialize_of_stopsAt` — what it writes of a value with a broken path.
* `Serializer.exists_stopsAt_of_refused`, `Serializer.exists_refusal` — it refuses the values with
  one, and no others.
* `Serializer.isLawful_pretty` — the serializer of this library is one of these.
-/
import ApkFeatures.Proofs.Text.Utf8
import ApkFeatures.Report.Pretty
import Mathlib.Data.List.Basic

namespace ApkFeatures

/-! ### Paths -/

/-- The path is a text. -/
def FilePath.isText (path : FilePath) : Bool := (Text.decode? path.bytes).isSome

/-- The path, if it is a text, and a text in its place otherwise. -/
def FilePath.orText (replacement : FilePath → String) (path : FilePath) : FilePath :=
  if path.isText then path else .ofString (replacement path)

theorem FilePath.isText_ofString (text : String) : (FilePath.ofString text).isText = true := by
  rw [isText, ofString, Text.decode?_encode]
  rfl

theorem FilePath.isText_orText (replacement : FilePath → String) (path : FilePath) :
    (path.orText replacement).isText = true := by
  unfold orText
  split
  · assumption
  · exact isText_ofString _

theorem FilePath.orText_of_isText {path : FilePath} (sound : path.isText = true)
    (replacement : FilePath → String) : path.orText replacement = path := if_pos sound

namespace JsonValue

/-- The path that is met, if it is one. -/
def Visit.path? : Visit → Option FilePath
  | .path p => some p
  | _ => none

/-- The same with another path. -/
def Visit.mapPath (form : FilePath → FilePath) : Visit → Visit
  | .path p => .path (form p)
  | visit => visit

/-- The paths in a value, in the order in which they are met. -/
def paths (value : JsonValue) : List FilePath := value.visits.filterMap Visit.path?

theorem mem_paths_iff {value : JsonValue} {path : FilePath} :
    path ∈ value.paths ↔ .path path ∈ value.visits := by
  rw [paths, List.mem_filterMap]
  constructor
  · rintro ⟨visit, met, isPath⟩
    cases visit <;> cases isPath
    exact met
  · exact fun met => ⟨_, met, rfl⟩

theorem paths_array_map {α : Type} (json : α → JsonValue) (items : List α) :
    (array (items.map json)).paths = items.flatMap fun item => (json item).paths := by
  have within : (itemVisits (items.map json)).filterMap Visit.path? =
      items.flatMap fun item => (json item).paths := by
    induction items with
    | nil => rfl
    | cons item items ih =>
      rw [List.map_cons, itemVisits, List.filterMap_cons_none rfl, List.filterMap_append, ih,
        List.flatMap_cons]
      rfl
  rw [paths, visits, List.filterMap_cons_none rfl, List.filterMap_append, within]
  exact List.append_nil _

theorem paths_object (members : List (String × JsonValue)) :
    (object members).paths = members.flatMap fun member => member.2.paths := by
  have within : (memberVisits members).filterMap Visit.path? =
      members.flatMap fun member => member.2.paths := by
    induction members with
    | nil => rfl
    | cons member members ih =>
      rw [memberVisits, List.filterMap_cons_none rfl, List.filterMap_append, ih,
        List.flatMap_cons]
      rfl
  rw [paths, visits, List.filterMap_cons_none rfl, List.filterMap_append, within]
  exact List.append_nil _

mutual

/-- The value with other paths. -/
def mapPaths (form : FilePath → FilePath) : JsonValue → JsonValue
  | null => null
  | number n => number n
  | text s => text s
  | path p => path (form p)
  | array items => array (mapItems form items)
  | object members => object (mapMembers form members)

/-- Values with other paths. -/
def mapItems (form : FilePath → FilePath) : List JsonValue → List JsonValue
  | [] => []
  | item :: items => mapPaths form item :: mapItems form items

/-- Members with other paths. -/
def mapMembers (form : FilePath → FilePath) :
    List (String × JsonValue) → List (String × JsonValue)
  | [] => []
  | (key, value) :: members => (key, mapPaths form value) :: mapMembers form members

end

section MapPaths

variable (form : FilePath → FilePath)

mutual

/-- **In a value with other paths the same is met**, but for the paths. -/
theorem visits_mapPaths : ∀ value : JsonValue,
    (mapPaths form value).visits = value.visits.map (Visit.mapPath form)
  | null => rfl
  | number _ => rfl
  | text _ => rfl
  | path _ => rfl
  | array items => by
    simp only [mapPaths, visits, itemVisits_mapItems items, List.map_cons, List.map_append,
      List.map_nil, Visit.mapPath]
  | object members => by
    simp only [mapPaths, visits, memberVisits_mapMembers members, List.map_cons, List.map_append,
      List.map_nil, Visit.mapPath]

theorem itemVisits_mapItems : ∀ items : List JsonValue,
    itemVisits (mapItems form items) = (itemVisits items).map (Visit.mapPath form)
  | [] => rfl
  | item :: items => by
    simp only [mapItems, itemVisits, visits_mapPaths item, itemVisits_mapItems items,
      List.map_cons, List.map_append, Visit.mapPath]

theorem memberVisits_mapMembers : ∀ members : List (String × JsonValue),
    memberVisits (mapMembers form members) = (memberVisits members).map (Visit.mapPath form)
  | [] => rfl
  | (key, value) :: members => by
    simp only [mapMembers, memberVisits, visits_mapPaths value, memberVisits_mapMembers members,
      List.map_cons, List.map_append, Visit.mapPath]

end

end MapPaths

theorem mapItems_eq (form : FilePath → FilePath) (items : List JsonValue) :
    mapItems form items = items.map (mapPaths form) := by
  induction items with
  | nil => rw [mapItems, List.map_nil]
  | cons item items ih => rw [mapItems, ih, List.map_cons]

/-- With texts in the places of broken paths, all paths are texts. -/
theorem isText_of_mem_mapPaths {value : JsonValue} {replacement : FilePath → String}
    {path : FilePath} (member : path ∈ (value.mapPaths (FilePath.orText replacement)).paths) :
    path.isText = true := by
  rw [mem_paths_iff, visits_mapPaths] at member
  obtain ⟨visit, -, same⟩ := List.mem_map.mp member
  cases visit <;> cases same
  exact FilePath.isText_orText replacement _

/-! ### The first broken path -/

/-- What is met up to the first path that is no text: some visits without such a path, then it. -/
structure StopsAt (visits visited : List Visit) (broken : FilePath) : Prop where
  /-- The path is met after these visits. -/
  split : ∃ later, visits = visited ++ .path broken :: later
  /-- Before it all paths are texts. -/
  sound : ∀ path, .path path ∈ visited → path.isText = true
  /-- It is none. -/
  broken : broken.isText = false

/-- **There is a first broken path**, unless all paths are texts. -/
theorem exists_stopsAt (visits : List Visit) :
    (∀ path, .path path ∈ visits → path.isText = true) ∨
      ∃ visited broken, StopsAt visits visited broken := by
  induction visits with
  | nil => exact .inl fun _ absent => absurd absent List.not_mem_nil
  | cons visit rest ih =>
    by_cases first : ∃ path, visit = .path path ∧ path.isText = false
    · obtain ⟨path, rfl, unsound⟩ := first
      exact .inr ⟨[], path, ⟨rest, rfl⟩, fun _ absent => absurd absent List.not_mem_nil, unsound⟩
    · have sound : ∀ path, visit = .path path → path.isText = true := fun path same =>
        Bool.of_not_eq_false fun unsound => first ⟨path, same, unsound⟩
      rcases ih with others | ⟨visited, broken, ⟨later, split⟩, before, unsound⟩
      · exact .inl fun path member =>
          (List.mem_cons.mp member).elim (fun same => sound path same.symm) (others path)
      · exact .inr ⟨visit :: visited, broken, ⟨later, congrArg (visit :: ·) split⟩,
          fun path member => (List.mem_cons.mp member).elim (fun same => sound path same.symm)
            (before path), unsound⟩

/-- Visits without a broken path are the same with texts in the places of broken paths. -/
theorem map_mapPath_of_sound {visited : List Visit}
    (sound : ∀ path, .path path ∈ visited → path.isText = true) (replacement : FilePath → String) :
    visited.map (Visit.mapPath (FilePath.orText replacement)) = visited := by
  refine (List.map_congr_left fun visit member => ?_).trans (List.map_id visited)
  cases visit with
  | path p => exact congrArg Visit.path (FilePath.orText_of_isText (sound p member) replacement)
  | _ => rfl

end JsonValue

/-! ### Serializers -/

namespace Serialized

theorem text_after (piece : String) (serialized : Serialized) :
    (serialized.after piece).text = piece ++ serialized.text := String.join_cons

/-- The bytes of what was written are those of its pieces. -/
theorem encode_text (serialized : Serialized) :
    Text.encode serialized.text = (serialized.pieces.map Text.encode).flatten := by
  obtain ⟨pieces, refusal?⟩ := serialized
  rw [text]
  induction pieces with
  | nil => rfl
  | cons piece rest ih =>
    rw [String.join_cons, Text.encode_append, ih, List.map_cons, List.flatten_cons]

end Serialized

namespace Serializer

open JsonValue (Visit)

/-- **What is asked of a serializer**: that it refuses just the paths that are no texts. That it
writes as it goes, and that what it has not met yet has no part in it, is what a serializer is. -/
structure IsLawful (serializer : Serializer) : Prop where
  /-- A path that is no text is refused before anything is written for it. -/
  refuses : ∀ state {path : FilePath}, path.isText = false →
    ∃ complaint, serializer.visit state (.path path) = ("", .error complaint)
  /-- A value in which all paths are texts is written to its end. -/
  accepts : ∀ {value : JsonValue}, (∀ path ∈ value.paths, path.isText = true) →
    (serializer.serialize value).refusal? = none

variable {serializer : Serializer}

/-- **What is met later has no part in what is written**: where it is not refused, the writing comes
to some state and goes on from there. -/
theorem follow_append (front : List Visit) : ∀ {state : serializer.State} {later : List Visit},
    (serializer.follow state (front ++ later)).refusal? = none →
    ∃ reached, ∀ back, (serializer.follow state (front ++ back)).text =
        (serializer.follow state front).text ++ (serializer.follow reached back).text ∧
      (serializer.follow state (front ++ back)).refusal? =
        (serializer.follow reached back).refusal? := by
  induction front with
  | nil => exact fun {state _} _ => ⟨state, fun back => ⟨String.empty_append.symm, rfl⟩⟩
  | cons visit rest ih =>
    intro state later accepted
    rcases answered : serializer.visit state visit with ⟨piece, complaint | next⟩ <;>
      simp only [List.cons_append, follow, answered] at accepted ⊢
    · cases accepted
    · obtain ⟨reached, goesOn⟩ := ih accepted
      refine ⟨reached, fun back => ⟨?_, (goesOn back).2⟩⟩
      rw [Serialized.text_after, Serialized.text_after, (goesOn back).1, String.append_assoc]

/-- **A value with a broken path is written up to the first one**: what is written is what comes
before the text in its place, whatever texts are put in the places of broken paths. -/
theorem serialize_of_stopsAt (lawful : serializer.IsLawful) {value : JsonValue}
    {visited : List Visit} {broken : FilePath}
    (stops : JsonValue.StopsAt value.visits visited broken) :
    (∃ complaint, (serializer.serialize value).refusal? = some complaint) ∧
      (serializer.serialize value).text = (serializer.follow serializer.start visited).text ∧
      ∀ replacement, ∃ rest,
        (serializer.serialize (value.mapPaths (FilePath.orText replacement))).refusal? = none ∧
        (serializer.serialize (value.mapPaths (FilePath.orText replacement))).text =
          (serializer.serialize value).text ++ rest := by
  obtain ⟨⟨later, split⟩, sound, unsound⟩ := stops
  have repaired (replacement : FilePath → String) :
      (value.mapPaths (FilePath.orText replacement)).visits = visited ++
        (.path broken :: later).map (Visit.mapPath (FilePath.orText replacement)) := by
    rw [JsonValue.visits_mapPaths, split, List.map_append, JsonValue.map_mapPath_of_sound sound]
  have complete (replacement : FilePath → String) :
      (serializer.serialize (value.mapPaths (FilePath.orText replacement))).refusal? = none :=
    lawful.accepts fun _ => JsonValue.isText_of_mem_mapPaths
  -- Any texts in the places of broken paths tell how far the serializer comes.
  have shown := complete FilePath.shown
  rw [serialize, repaired] at shown
  obtain ⟨reached, goesOn⟩ := follow_append visited shown
  obtain ⟨complaint, refused⟩ := lawful.refuses reached unsound
  have stopped : serializer.follow reached (.path broken :: later) = ⟨[""], some complaint⟩ := by
    rw [follow, refused]
  have written : (serializer.serialize value).text =
      (serializer.follow serializer.start visited).text := by
    rw [serialize, split, (goesOn _).1, stopped]
    exact String.append_empty
  refine ⟨⟨complaint, ?_⟩, written, fun replacement =>
    ⟨(serializer.follow reached
      ((.path broken :: later).map (Visit.mapPath (FilePath.orText replacement)))).text,
      complete replacement, ?_⟩⟩
  · rw [serialize, split, (goesOn _).2, stopped]
  · rw [written, serialize, repaired, (goesOn _).1]

section Refusals

variable (lawful : serializer.IsLawful) {value : JsonValue}

include lawful

/-- A value that is refused has a first broken path. -/
theorem exists_stopsAt_of_refused (refused : (serializer.serialize value).refusal? ≠ none) :
    ∃ visited broken, JsonValue.StopsAt value.visits visited broken := by
  rcases JsonValue.exists_stopsAt value.visits with sound | stops
  · exact absurd (lawful.accepts fun path member =>
      sound path (JsonValue.mem_paths_iff.mp member)) refused
  · exact stops

/-- A value with a broken path is refused. -/
theorem exists_refusal {path : FilePath} (member : path ∈ value.paths)
    (unsound : path.isText = false) :
    ∃ complaint, (serializer.serialize value).refusal? = some complaint := by
  rcases JsonValue.exists_stopsAt value.visits with sound | ⟨visited, broken, stops⟩
  · cases (sound path (JsonValue.mem_paths_iff.mp member)).symm.trans unsound
  · exact (serialize_of_stopsAt lawful stops).1

end Refusals

/-! ### JSON on many lines -/

theorem visit_pretty (opened : Pretty.Opened) {visit : Visit}
    (sound : ∀ path, visit = .path path → path.isText = true) :
    ∃ piece next, Pretty.visit opened visit = (piece, .ok next) := by
  cases visit with
  | path p =>
    obtain ⟨text, read⟩ := Option.isSome_iff_exists.mp (sound p rfl)
    exact ⟨_, _, by rw [Pretty.visit, read]⟩
  | _ => exact ⟨_, _, rfl⟩

theorem follow_pretty (visits : List Visit) :
    ∀ {opened : Pretty.Opened}, (∀ path, .path path ∈ visits → path.isText = true) →
      (pretty.follow opened visits).refusal? = none := by
  induction visits with
  | nil => exact fun _ => rfl
  | cons visit rest ih =>
    intro opened sound
    obtain ⟨piece, next, written⟩ := visit_pretty opened fun path same =>
      sound path (same ▸ List.mem_cons_self)
    have first : pretty.visit opened visit = (piece, .ok next) := written
    simp only [follow, first]
    exact ih fun path member => sound path (List.mem_cons_of_mem _ member)

/-- **The serializer of this library** refuses just the paths that are no texts. -/
theorem isLawful_pretty : pretty.IsLawful where
  refuses := fun opened {path} unsound => by
    have unread : Text.decode? path.bytes = none :=
      Option.not_isSome_iff_eq_none.mp (Bool.not_eq_true _ ▸ unsound)
    exact ⟨_, by simp only [pretty, Pretty.visit, unread]; rfl⟩
  accepts := fun sound => follow_pretty _ fun path met =>
    sound path (JsonValue.mem_paths_iff.mpr met)

end Serializer

end ApkFeatures
