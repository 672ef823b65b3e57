/-
**A merged table does not depend on how its inputs are given.**

Inputs of one name should be one path, as it is spelled in one way or another. Then the rows of a
merged table are told by the paths that are given at all: the order of the inputs does not matter, nor
how often an input is given. One thing has to be asked of the spellings: either all of them can be the
path of a file, or none. A path that ends in a slash is the same path as the one without the slash,
but no file can be read at it, and the first spelling is the one that is kept.

* `Consistent` — inputs of one name are one path.
* `AreRows`, `AreRows.unique` — the rows of a merged table, in the order of the names.
* `areRows_kept` — what merging finds are these rows.
* `SameRow`, `merge_sameShape` — what inputs hold matters as far as it tells the rows.
* `merge_order` — merging inputs that are given in another way, or that have other lines at their end.
* `merge_order_slashed` — two spellings of a path of which one cannot be read.
-/
import ApkFeatures.Proofs.FileTree.Contents
import ApkFeatures.Proofs.FileTree.Spelling
import ApkFeatures.Proofs.Report.Repeats
import ApkFeatures.Proofs.Text.Lines

namespace ApkFeatures.Dataset

open FilePath FileTree

variable {family : Family} {tree : FileTree} {inputs again : List FilePath} {path : FilePath}

/-- **Inputs with one name are one path**, and all its spellings can be those of a file, or none. -/
structure Consistent (inputs : List FilePath) : Prop where
  /-- They are the same path. -/
  same : ∀ first ∈ inputs, ∀ second ∈ inputs, first.fileName? = second.fileName? →
    first.components = second.components
  /-- Their spellings end alike. -/
  direct : ∀ first ∈ inputs, ∀ second ∈ inputs, first.fileName? = second.fileName? →
    (first.IsDirect ↔ second.IsDirect)

theorem Consistent.mono (consistent : Consistent inputs) (within : ∀ path ∈ again, path ∈ inputs) :
    Consistent again where
  same := fun first inside second also =>
    consistent.same first (within first inside) second (within second also)
  direct := fun first inside second also =>
    consistent.direct first (within first inside) second (within second also)

theorem Consistent.not_interleaved (consistent : Consistent inputs) : ¬ Interleaved inputs := by
  rintro ⟨first, other, again, listed, -, differs, named⟩
  have inside := listed.subset List.mem_cons_self
  have also := listed.subset (List.mem_cons_of_mem _ List.mem_cons_self)
  exact same_eq_false_iff.mp differs (consistent.same first inside other also named)

/-! ### Rows with their names -/

/-- The name and the row of the table at a path, if there is one. -/
def entryAt? (family : Family) (tree : FileTree) (path : FilePath) : Option (String × String) := do
  let name ← path.fileName?.bind Text.decode?
  let content ← (tree.readText path).toOption
  let row ← row? family content
  return (name, row)

/-- The line of a merged table with a row and the name of its file. -/
def mergedLine (entry : String × String) : String := entry.2 ++ "," ++ entry.1

theorem rowAt?_eq (family : Family) (tree : FileTree) (path : FilePath) :
    rowAt? family tree path = (entryAt? family tree path).map mergedLine := by
  rw [rowAt?, entryAt?]
  cases path.fileName?.bind Text.decode? with
  | none => rfl
  | some name =>
    cases (tree.readText path).toOption with
    | none => rfl
    | some content => cases found : row? family content <;> simp [found, mergedLine]

theorem entryAt?_eq_some_iff {name row : String} :
    entryAt? family tree path = some (name, row) ↔ path.fileName? = some (Text.encode name) ∧
      ∃ content, tree.readText path = .ok content ∧ row? family content = some row := by
  unfold entryAt?
  simp only [Option.bind_eq_bind, Option.bind_eq_some_iff, Text.decode?_eq_some_iff, Option.pure_def,
    Option.some.injEq, Prod.mk.injEq, Fallible.toOption_eq_some_iff]
  constructor
  · rintro ⟨name, ⟨_, named, rfl⟩, content, given, row, found, rfl, rfl⟩
    exact ⟨named, content, given, found⟩
  · rintro ⟨named, content, given, found⟩
    exact ⟨name, ⟨_, named, rfl⟩, content, given, row, found, rfl, rfl⟩

/-- **The spellings of a path have one row**, or none. -/
theorem entryAt?_of_components {first second : FilePath}
    (same : first.components = second.components) (direct : first.IsDirect ↔ second.IsDirect) :
    entryAt? family tree first = entryAt? family tree second := by
  have texts : (tree.readText first).toOption = (tree.readText second).toOption := by
    by_cases isDirect : first.IsDirect
    · have found := @find?_of_components tree _ _ same isDirect (direct.mp isDirect)
      rw [readText, FileTree.read, found, readText, FileTree.read]
    · have unread {path : FilePath} (indirect : ¬ path.IsDirect) :
          (tree.readText path).toOption = none := by
        rw [Option.eq_none_iff_forall_ne_some]
        intro text given
        exact indirect (isDirect_of_read (toOption_readText_iff.mp given))
      rw [unread isDirect, unread (mt direct.mpr isDirect)]
  rw [entryAt?, fileName?_of_components same, texts, entryAt?]

/-- **The rows of a merged table**: one for every name of an input that has a row, in the order of the
names. -/
structure AreRows (family : Family) (tree : FileTree) (inputs : List FilePath)
    (rows : List (String × String)) : Prop where
  /-- The names are in ascending order, by their bytes. -/
  ascending : rows.Pairwise fun first second => Text.encode first.1 < Text.encode second.1
  /-- They are the names and the rows of the inputs. -/
  mem_iff : ∀ name row, (name, row) ∈ rows ↔ ∃ path ∈ inputs,
    path.fileName? = some (Text.encode name) ∧
      ∃ content, tree.readText path = .ok content ∧ row? family content = some row

/-- **Inputs have one list of rows**, however they are given. -/
theorem AreRows.unique {first second : List (String × String)}
    (members : ∀ path, path ∈ again ↔ path ∈ inputs) (rows : AreRows family tree inputs first)
    (rows' : AreRows family tree again second) : second = first := by
  have distinct {rows : List (String × String)}
      (ascending : rows.Pairwise fun first second => Text.encode first.1 < Text.encode second.1) :
      rows.Nodup := by
    refine ascending.imp fun {first second} before same => ?_
    rw [same] at before
    exact List.lt_irrefl _ before
  have perm : second.Perm first := by
    rw [List.perm_ext_iff_of_nodup (distinct rows'.ascending) (distinct rows.ascending)]
    intro ⟨name, row⟩
    rw [rows'.mem_iff, rows.mem_iff]
    exact exists_congr fun path => and_congr_left fun _ => members path
  exact perm.eq_of_pairwise (fun _ _ _ _ before after => absurd after (List.lt_asymm before))
    rows'.ascending rows.ascending

/-! ### What is kept -/

/-- The inputs that are read, in the order in which they are. -/
def kept (inputs : List FilePath) : List FilePath := withoutRepeats (byFileName inputs)

theorem mem_of_mem_kept (member : path ∈ kept inputs) : path ∈ inputs :=
  mem_inputs_of_mem member

/-- Of every input a spelling is kept. -/
theorem exists_kept (member : path ∈ inputs) :
    ∃ spelled ∈ kept inputs, spelled.components = path.components := by
  have among : ((kept inputs).find? (·.same path)).isSome = true := by
    rw [kept, find?_kept]
    exact List.find?_isSome.mpr ⟨path, member, same_iff.mpr rfl⟩
  obtain ⟨spelled, found⟩ := Option.isSome_iff_exists.mp among
  have same := List.find?_some found
  exact ⟨spelled, List.mem_of_find?_eq_some found, same_iff.mp same⟩

/-- **What is kept of inputs that are consistent has ascending names.** -/
theorem kept_ascending (consistent : Consistent inputs) :
    (kept inputs).Pairwise fun first second =>
      first.fileName?.toList < second.fileName?.toList := by
  have ordered : (kept inputs).Pairwise fun first second =>
      first.fileName?.toList ≤ second.fileName?.toList :=
    (byFileName_pairwise inputs).sublist (withoutRepeats_sublist _)
  have apart := List.pairwise_map.mp (nodup_kept consistent.not_interleaved)
  refine (ordered.and apart).imp_of_mem fun {first second} inside also ⟨before, different⟩ => ?_
  refine (List.le_iff_lt_or_eq.mp before).resolve_right fun same => different ?_
  refine consistent.same first (mem_of_mem_kept inside) second (mem_of_mem_kept also) ?_
  exact fileName?_of_le_le before (same ▸ List.le_refl _)

/-- **What merging finds are the rows of the inputs.** -/
theorem areRows_kept (consistent : Consistent inputs) (family : Family) (tree : FileTree) :
    AreRows family tree inputs ((kept inputs).filterMap (entryAt? family tree)) where
  ascending := by
    refine List.pairwise_filterMap.mpr ((kept_ascending consistent).imp ?_)
    rintro first second before ⟨name, row⟩ found ⟨name', row'⟩ found'
    rw [(entryAt?_eq_some_iff.mp found).1, (entryAt?_eq_some_iff.mp found').1, Option.toList_some,
      Option.toList_some, List.cons_lt_cons_iff] at before
    exact before.resolve_right fun both => List.not_lt_nil [] both.2
  mem_iff := by
    intro name row
    rw [List.mem_filterMap]
    constructor
    · rintro ⟨path, member, found⟩
      exact ⟨path, mem_of_mem_kept member, entryAt?_eq_some_iff.mp found⟩
    · rintro ⟨path, member, given⟩
      obtain ⟨spelled, isKept, same⟩ := exists_kept member
      refine ⟨spelled, isKept, ?_⟩
      have direct := consistent.direct spelled (mem_of_mem_kept isKept) path member
        (fileName?_of_components same)
      rw [entryAt?_of_components same direct]
      exact entryAt?_eq_some_iff.mpr given

/-! ### Merging -/

section Merge

variable {output : FilePath} {progress one two : Progress}

/-- Where no folder for the output can be made, nothing is merged. -/
theorem merge_of_unparented {fault : Fault} {parented : FileTree}
    (parent : progress.tree.createParent output = (.error fault, parented)) (family : Family)
    (inputs : List FilePath) :
    (merge family inputs output).run progress =
      (.error (.files fault), { progress with tree := parented }) := by
  rw [merge, Trial.run_bind, Trial.run_change, parent]
  rfl

/-- Where the output cannot be emptied, nothing is merged. -/
theorem merge_of_unopened {fault : Fault} {parented : FileTree}
    (parent : progress.tree.createParent output = (.ok (), parented))
    (refused : parented.write output [] = .error fault) (family : Family)
    (inputs : List FilePath) :
    (merge family inputs output).run progress =
      (.error (.attempt (.createFile output)), { progress with tree := parented }) := by
  rw [merge, Trial.run_bind, Trial.run_change, parent, Trial.run_settle_ok]
  dsimp only
  rw [Trial.run_bind, Trial.run_change, Step.whole, refused]
  rfl

/-- **Merging is told by the rows of the inputs**, wherever these are read. -/
theorem merge_congr
    (rows : ∀ tree, (kept again).filterMap (rowAt? family tree) =
      (kept inputs).filterMap (rowAt? family tree)) (progress : Progress) (output : FilePath) :
    ((merge family again output).run progress).1 = ((merge family inputs output).run progress).1 ∧
      ((merge family again output).run progress).2.tree =
        ((merge family inputs output).run progress).2.tree := by
  rcases parent : progress.tree.createParent output with ⟨fault | done, parented⟩
  · rw [merge_of_unparented parent, merge_of_unparented parent]
    exact ⟨rfl, rfl⟩
  · cases opened : parented.write output [] with
    | error fault =>
      rw [merge_of_unopened parent opened, merge_of_unopened parent opened]
      exact ⟨rfl, rfl⟩
    | ok emptied =>
      obtain ⟨filled, told, written, ran⟩ := merge_run_emptied parent opened family inputs
      obtain ⟨filled', told', written', ran'⟩ := merge_run_emptied parent opened family again
      have equal := rows emptied
      unfold kept at equal
      rw [equal, written] at written'
      cases written'
      rw [ran, ran', equal]
      exact ⟨rfl, rfl⟩

/-- Contents that give the same row of a family, or none. -/
def SameRow (family : Family) (content other : Bytes) : Prop :=
  (Text.decode? content).bind (row? family) = (Text.decode? other).bind (row? family)

theorem row?_congr {content other : String}
    (same : (Text.lines content.toList).take 2 = (Text.lines other.toList).take 2) :
    row? family content = row? family other := by
  unfold row?
  generalize Text.lines content.toList = first at same ⊢
  generalize Text.lines other.toList = second at same ⊢
  rcases first with _ | ⟨header, _ | ⟨row, rest⟩⟩ <;>
    rcases second with _ | ⟨header', _ | ⟨row', rest'⟩⟩ <;> simp_all

/-- **The first two lines tell the row.** -/
theorem sameRow_of_firstLines? {content other : Bytes}
    (same : Text.firstLines? content = Text.firstLines? other) (family : Family) :
    SameRow family content other := by
  unfold Text.firstLines? Text.lines? at same
  rw [SameRow]
  cases first : Text.decode? content <;> cases second : Text.decode? other
  all_goals simp only [first, second] at same
  · rfl
  · simp at same
  · simp at same
  · exact row?_congr (by simpa using same)

/-- The row of a content is read of the bytes. -/
theorem bind_readText (family : Family) (tree : FileTree) (path : FilePath) :
    (tree.readText path).toOption.bind (row? family) =
      (tree.read path).toOption.bind fun content => (Text.decode? content).bind (row? family) := by
  rw [readText]
  cases tree.read path with
  | error fault => rfl
  | ok content =>
    cases found : Text.decode? content <;> simp [found, Except.toOption, bind, Except.bind]

theorem rowAt?_of_sameShape {other : FileTree} (same : SameShape (SameRow family) tree other)
    (path : FilePath) : rowAt? family other path = rowAt? family tree path := by
  have rows : (other.readText path).toOption.bind (row? family) =
      (tree.readText path).toOption.bind (row? family) := by
    rw [bind_readText, bind_readText]
    rcases same.read path with ⟨fault, here, there⟩ | ⟨content, content', here, there, equal⟩
    · rw [here, there]
    · rw [here, there]
      exact equal.symm
  unfold rowAt?
  simp only [Option.bind_eq_bind, ← Option.bind_assoc, rows]

/-- **Merging does not see of its inputs but their rows.** -/
theorem merge_sameShape (same : SameShape (SameRow family) one.tree two.tree)
    (inputs : List FilePath) (output : FilePath) :
    let merged := (merge family inputs output).run one
    let other := (merge family inputs output).run two
    other.1 = merged.1 ∧ ∀ dataset, merged.1 = .ok dataset →
      other.2.tree.read output = merged.2.tree.read output := by
  intro merged other
  have parents := same.createParent output
  rcases parent : one.tree.createParent output with ⟨result, parented⟩
  rcases parent' : two.tree.createParent output with ⟨result', parented'⟩
  rw [parent, parent'] at parents
  obtain ⟨equal, shape⟩ := parents
  change result' = result at equal
  subst equal
  cases result' with
  | error fault =>
    have failed : merged = _ := merge_of_unparented parent family inputs
    have failed' : other = _ := merge_of_unparented parent' family inputs
    rw [failed, failed']
    exact ⟨rfl, fun dataset given => nomatch given⟩
  | ok done =>
    rcases shape.write output (@rfl _ _) with
      ⟨fault, fault', refused, refused'⟩ | ⟨emptied, emptied', opened, opened', shape⟩
    · have failed : merged = _ := merge_of_unopened parent refused family inputs
      have failed' : other = _ := merge_of_unopened parent' refused' family inputs
      rw [failed, failed']
      exact ⟨rfl, fun dataset given => nomatch given⟩
    · obtain ⟨after, ran, left⟩ := merge_eq_ok parent opened family inputs
      obtain ⟨after', ran', left'⟩ := merge_eq_ok parent' opened' family inputs
      have rows : rowAt? family emptied' = rowAt? family emptied :=
        funext (rowAt?_of_sameShape shape)
      rw [rows] at ran' left'
      have equal : merged = _ := ran
      have equal' : other = _ := ran'
      rw [equal, equal']
      exact ⟨rfl, fun _ _ => left'.trans left.symm⟩

/-- **Merging does not depend on how its inputs are given.** From the same paths, in any order and
however often each is given, merging gives the same result and leaves the same files. Once the output
could be emptied it leaves the rows of the inputs, in the order of their names. And nothing changes if
a file gets carriage returns at the ends of its lines, or other lines after the first two. -/
theorem merge_order (consistent : Consistent inputs) (members : ∀ path, path ∈ again ↔ path ∈ inputs)
    (family : Family) (output : FilePath) (progress : Progress) :
    let merged := (merge family inputs output).run progress
    let other := (merge family again output).run progress
    (other.1 = merged.1 ∧ other.2.tree = merged.2.tree) ∧
      (∀ parented emptied, progress.tree.createParent output = (.ok (), parented) →
        parented.write output [] = .ok emptied → ∃ rows, AreRows family emptied inputs rows ∧
          merged.1 = .ok ⟨family, output, rows.length⟩ ∧ merged.2.tree.read output =
            .ok (Text.encode (Dataset.merged family (rows.map mergedLine)))) ∧
      ∀ path before after changed, progress.tree.read path = .ok before →
        Text.Restyled before after → progress.tree.write path after = .ok changed →
          let restyled := (merge family inputs output).run ⟨changed, progress.told⟩
          restyled.1 = merged.1 ∧ ∀ dataset, merged.1 = .ok dataset →
            restyled.2.tree.read output = merged.2.tree.read output := by
  intro merged other
  have rows (inputs : List FilePath) (tree : FileTree) :
      (kept inputs).filterMap (rowAt? family tree) =
        ((kept inputs).filterMap (entryAt? family tree)).map mergedLine := by
    rw [List.map_filterMap]
    exact List.filterMap_congr fun path _ => rowAt?_eq family tree path
  refine ⟨merge_congr (fun tree => ?_) progress output, ?_, ?_⟩
  · have consistent' := consistent.mono fun path => (members path).mp
    rw [rows, rows, (areRows_kept consistent family tree).unique members
      (areRows_kept consistent' family tree)]
  · intro parented emptied parent opened
    obtain ⟨after, ran, left⟩ := merge_eq_ok parent opened family inputs
    have found := rows inputs emptied
    unfold kept at found
    rw [found, List.length_map] at ran
    rw [found] at left
    have equal : merged = _ := ran
    exact ⟨_, areRows_kept consistent family emptied, by rw [equal]; rfl, by rw [equal]; exact left⟩
  · intro path before after changed given restyled written
    refine merge_sameShape ?_ inputs output
    exact sameShape_of_write (fun _ => rfl) given
      (sameRow_of_firstLines? restyled.firstLines?.symm family) written

end Merge

/-! ### Spellings of one path -/

section Sample

/-- The table in the first folder, with another slash inside its path. -/
def doubledTable : FilePath := .ofString "x//a.csv"

/-- The table in the first folder, with a slash at the end of its path. -/
def slashedTable : FilePath := .ofString "x/a.csv/"

/-- Inputs of one name are read at the first spelling. -/
theorem kept_pair {first second : FilePath} (named : first.fileName? = second.fileName?)
    (same : first.same second = true) : kept [first, second] = [first] := by
  have sorted : byFileName [first, second] = [first, second] :=
    List.mergeSort_of_pairwise (by simp [named])
  rw [kept, sorted, withoutRepeats, if_pos same, withoutRepeats]

theorem merge_order_sample :
    ∃ after after' changed, (merge .intents [firstTable, doubledTable] mergedTable).run
        ⟨twoFolders, []⟩ = (.ok ⟨.intents, mergedTable, 1⟩, after) ∧
      (merge .intents [doubledTable, firstTable, firstTable] mergedTable).run ⟨twoFolders, []⟩ =
        (.ok ⟨.intents, mergedTable, 1⟩, after') ∧ after'.tree = after.tree ∧
      twoFolders.write firstTable (emptyTable ++ Text.encode "more\n") = .ok changed ∧
      ((merge .intents [firstTable, doubledTable] mergedTable).run ⟨changed, []⟩).1 =
        .ok ⟨.intents, mergedTable, 1⟩ := by
  have consistent : Consistent [firstTable, doubledTable] := ⟨by decide, by decide⟩
  have members : ∀ path, path ∈ [doubledTable, firstTable, firstTable] ↔
      path ∈ [firstTable, doubledTable] := fun path => by simp [or_comm]
  obtain ⟨emptied, opened⟩ := exists_emptied
  obtain ⟨⟨row, first⟩, -⟩ := rowAt?_tables opened
  obtain ⟨after, ran, -⟩ := @merge_eq_ok mergedTable ⟨twoFolders, []⟩ twoFolders emptied rfl
    opened .intents [firstTable, doubledTable]
  have only := @kept_pair firstTable doubledTable (by decide) (by decide)
  unfold kept at only
  rw [only, List.filterMap_cons_some first] at ran
  have ended : 2 ≤ emptyTable.count Text.lineFeed := by
    have newline : (Text.encode "\n").count Text.lineFeed = 1 := by decide
    rw [emptyTable, FeatureVector.csv]
    simp only [Text.encode_append, List.count_append, newline]
    omega
  have given : twoFolders.read firstTable = .ok emptyTable := rfl
  obtain ⟨changed, written⟩ : ∃ changed,
      twoFolders.write firstTable (emptyTable ++ Text.encode "more\n") = .ok changed := ⟨_, rfl⟩
  obtain ⟨⟨result, tree⟩, -, restyled⟩ := merge_order consistent members .intents mergedTable
    ⟨twoFolders, []⟩
  obtain ⟨again, -⟩ := restyled firstTable _ _ changed given (.append ended "more\n") written
  rcases other : (merge .intents [doubledTable, firstTable, firstTable] mergedTable).run
    ⟨twoFolders, []⟩ with ⟨result', after'⟩
  rw [ran, other] at result tree
  rw [ran] at again
  exact ⟨after, after', changed, ran, Prod.ext result rfl, tree, written, again⟩

/-- **Two spellings of one path can differ in what is read**: at the one with a slash at its end there
is no file, and the one that is given first is kept. -/
theorem merge_order_slashed :
    (∀ first ∈ [firstTable, slashedTable], ∀ second ∈ [firstTable, slashedTable],
        first.same second = true) ∧
      [slashedTable, firstTable].Perm [firstTable, slashedTable] ∧
      ∃ after after', (merge .intents [firstTable, slashedTable] mergedTable).run
          ⟨twoFolders, []⟩ = (.ok ⟨.intents, mergedTable, 1⟩, after) ∧
        (merge .intents [slashedTable, firstTable] mergedTable).run ⟨twoFolders, []⟩ =
          (.ok ⟨.intents, mergedTable, 0⟩, after') := by
  obtain ⟨emptied, opened⟩ := exists_emptied
  obtain ⟨⟨row, first⟩, -⟩ := rowAt?_tables opened
  have none : rowAt? .intents emptied slashedTable = none := by
    rw [Option.eq_none_iff_forall_ne_some]
    intro row found
    obtain ⟨_, _, _, _, -, given, -⟩ := rowAt?_eq_some_iff.mp found
    exact absurd (isDirect_of_read given) (by decide)
  obtain ⟨after, ran, -⟩ := @merge_eq_ok mergedTable ⟨twoFolders, []⟩ twoFolders emptied rfl
    opened .intents [firstTable, slashedTable]
  obtain ⟨after', ran', -⟩ := @merge_eq_ok mergedTable ⟨twoFolders, []⟩ twoFolders emptied rfl
    opened .intents [slashedTable, firstTable]
  have kept_first := @kept_pair firstTable slashedTable (by decide) (by decide)
  have kept_slashed := @kept_pair slashedTable firstTable (by decide) (by decide)
  unfold kept at kept_first kept_slashed
  rw [kept_first, List.filterMap_cons_some first] at ran
  rw [kept_slashed, List.filterMap_cons_none none] at ran'
  exact ⟨by decide, .swap .., after, after', ran, ran'⟩

end Sample

end ApkFeatures.Dataset
