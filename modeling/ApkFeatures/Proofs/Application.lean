/-
**The applications of a folder.**

* `Application.select_names` — no two applications have the same name, and none has a name that was
  taken.
* `Application.list_run` — a folder that can be read has a list of applications.
* `Application.name_of_ofPackage?` — the name of an application is a name for files.
* `Application.list_spec` — what holds of the list of applications.
* `Application.SamePackages`, `list_samePackages` — from the same packages the same applications are
  listed.
-/
import ApkFeatures.Application
import ApkFeatures.Proofs.Settings
import ApkFeatures.Proofs.Sorting
import ApkFeatures.Proofs.Step

namespace ApkFeatures.Application

/-- The applications taken from packages have distinct names, none of them taken before. -/
theorem select_names (packages : List FilePath) :
    ∀ taken, ((select taken packages).1.map name).Nodup ∧
      ∀ application ∈ (select taken packages).1, application.name ∉ taken := by
  induction packages with
  | nil => exact fun taken => ⟨List.nodup_nil, fun application member => nomatch member⟩
  | cons package rest ih =>
    intro taken
    rw [select]
    cases found : ofPackage? package with
    | none => exact ih taken
    | some application =>
      by_cases isTaken : taken.contains application.name = true
      · simp only [isTaken, if_true]
        exact ih taken
      · simp only [isTaken, Bool.false_eq_true, if_false]
        obtain ⟨distinct, fresh⟩ := ih (application.name :: taken)
        refine ⟨?_, ?_⟩
        · rw [List.map_cons, List.nodup_cons]
          refine ⟨fun member => ?_, distinct⟩
          obtain ⟨later, inside, same⟩ := List.mem_map.mp member
          exact fresh later inside (same ▸ List.mem_cons_self)
        · intro later member
          rcases List.mem_cons.mp member with first | inside
          · rw [first]
            exact fun old => isTaken (List.contains_iff_mem.mpr old)
          · exact fun old => fresh later inside (List.mem_cons_of_mem _ old)

/-- **A folder that can be read has a list of applications**, taken from its files. -/
theorem list_run {folder : FilePath} {progress : Progress} {names : List Bytes}
    (readable : progress.tree.list folder = .ok names) :
    ∃ told, (list folder).run progress =
      (.ok (select [] (sorted ((names.map fun name => folder.join ⟨name⟩).filter
        progress.tree.isFile))).1, { progress with told := told }) := by
  rw [list, Trial.run_bind, Trial.run_ask, readable, Trial.run_settle_ok]
  exact ⟨_, rfl⟩

/-- A folder that cannot be read has none, and nothing has been done. -/
theorem list_of_unreadable {folder : FilePath} {progress : Progress} {fault : FileTree.Fault}
    (unreadable : progress.tree.list folder = .error fault) :
    (list folder).run progress = (.error (.attempt (.readFolder folder)), progress) := by
  rw [list, Trial.run_bind, Trial.run_ask, unreadable]
  rfl

/-! ### Names -/

/-- The last name of a path is a name in a folder. -/
theorem isName_of_fileName? {path : FilePath} {name : Bytes} (named : path.fileName? = some name) :
    FilePath.IsName name := by
  have last : path.components.getLast? = some (.name name) := by
    rw [FilePath.fileName?] at named
    split at named
    · rename_i found
      cases named
      exact found
    · cases named
  rcases List.mem_append.mp (List.mem_of_getLast? last) with start | later
  · have first := Option.mem_toList.mp start
    rw [FilePath.start?] at first
    split at first
    · cases first
    · split at first
      · cases first
      · cases first
  · obtain ⟨segment, inside, component⟩ := List.mem_filterMap.mp later
    rw [FilePath.Component.ofSegment?] at component
    split at component
    · cases component
    · rename_i solid
      split at component
      · cases component
      · rename_i inner
        cases component
        exact ⟨FilePath.unslashed_of_mem_segments inside, Bool.eq_false_iff.mpr solid, inner⟩

/-- The name of an application is written with bytes of the name of its package, at least one. -/
theorem nameBytes?_spec {package : FilePath} {bytes : Bytes}
    (named : nameBytes? package = some bytes) : FilePath.slash ∉ bytes ∧ bytes ≠ [] := by
  rw [nameBytes?] at named
  split at named
  · obtain ⟨name, file, rfl⟩ := Option.map_eq_some_iff.mp named
    have isName := isName_of_fileName? file
    rw [FilePath.cutName]
    split
    · exact ⟨isName.unslashed, isName.ne_nil⟩
    · rename_i stem
      exact ⟨fun member => isName.unslashed (List.mem_of_mem_take member), stem⟩
  · have isName := isName_of_fileName? named
    exact ⟨isName.unslashed, isName.ne_nil⟩

/-- **An application has a name that can be the beginning of the names of files.** -/
theorem name_of_ofPackage? {package : FilePath} {application : Application}
    (made : ofPackage? package = some application) :
    IsPlain application.name ∧ application.name ≠ "" := by
  obtain ⟨name, read, rfl⟩ := Option.map_eq_some_iff.mp made
  obtain ⟨bytes, named, decoded⟩ := Option.bind_eq_some_iff.mp read
  obtain ⟨unslashed, written⟩ := nameBytes?_spec named
  have encoded := Text.encode_of_decode? decoded
  refine ⟨?_, fun empty => written ?_⟩
  · show FilePath.slash ∉ Text.encode name
    rw [encoded]
    exact unslashed
  · rw [← encoded, show name = "" from empty]
    rfl

theorem name_of_mem_select {application : Application} (packages : List FilePath) :
    ∀ taken, application ∈ (select taken packages).1 →
      IsPlain application.name ∧ application.name ≠ "" := by
  induction packages with
  | nil => exact fun taken member => nomatch member
  | cons package rest ih =>
    intro taken member
    rw [select] at member
    cases made : ofPackage? package with
    | none =>
      rw [made] at member
      exact ih taken member
    | some first =>
      simp only [made] at member
      split at member
      · exact ih taken member
      · rcases List.mem_cons.mp member with rfl | later
        · exact name_of_ofPackage? made
        · exact ih _ later

/-- **The applications of a folder have different names**, which can be the beginning of the names
of files, and listing them changes no file. -/
theorem list_spec {folder : FilePath} {progress reached : Progress}
    {applications : List Application}
    (listed : (list folder).run progress = (.ok applications, reached)) :
    reached.tree = progress.tree ∧ (applications.map name).Nodup ∧
      ∀ application ∈ applications, IsPlain application.name ∧ application.name ≠ "" := by
  cases readable : progress.tree.list folder with
  | ok names =>
    obtain ⟨told, found⟩ := list_run readable
    rw [found] at listed
    cases listed
    exact ⟨rfl, (select_names _ []).1, fun application member => name_of_mem_select _ [] member⟩
  | error fault =>
    rw [list_of_unreadable readable] at listed
    cases listed

/-! ### Packages in any order -/

/-- The packages in a folder, if it can be read. -/
def packages? (tree : FileTree) (folder : FilePath) : Option (List FilePath) :=
  (tree.list folder).toOption.map fun names =>
    (names.map fun name => folder.join ⟨name⟩).filter tree.isFile

/-- Both trees have the same packages in a folder, in any order, or none has such a folder. -/
def SamePackages (folder : FilePath) (before after : FileTree) : Prop :=
  Option.Rel List.Perm (packages? before folder) (packages? after folder)

/-- The name of an application is read from the components of its package. -/
theorem name_of_order {first second : FilePath} (same : first.order = second.order) :
    (ofPackage? first).map name = (ofPackage? second).map name := by
  have fileNames : first.fileName? = second.fileName? := by
    rw [FilePath.fileName?, FilePath.order_inj.mp same, FilePath.fileName?]
  simp only [ofPackage?, nameBytes?, FilePath.ending?, FilePath.stem?, fileNames, Option.map_map]
  rfl

/-- The names of the applications among some packages are read from the ranks of the packages. -/
theorem select_names_congr {first : List FilePath} :
    ∀ {second : List FilePath}, first.map FilePath.order = second.map FilePath.order →
      ∀ taken, (select taken first).1.map name = (select taken second).1.map name := by
  induction first with
  | nil =>
    intro second same taken
    rw [List.map_eq_nil_iff.mp same.symm]
  | cons package rest ih =>
    intro second same taken
    cases second with
    | nil => cases same
    | cons other others =>
      obtain ⟨sameOrder, sameOrders⟩ := List.cons_eq_cons.mp same
      have sameName := name_of_order sameOrder
      rw [select, select]
      cases found : ofPackage? package with
      | none =>
        rw [found] at sameName
        rw [Option.map_eq_none_iff.mp sameName.symm]
        exact ih sameOrders taken
      | some application =>
        rw [found] at sameName
        obtain ⟨twin, found', named⟩ := Option.map_eq_some_iff.mp sameName.symm
        rw [found']
        dsimp only
        rw [named]
        split
        · exact ih sameOrders taken
        · exact List.cons_eq_cons.mpr ⟨named.symm, ih sameOrders _⟩

/-- **However packages are listed, they have the same ranks when they are sorted.** -/
theorem sorted_order_congr {first second : List FilePath} (perm : first.Perm second) :
    (sorted first).map FilePath.order = (sorted second).map FilePath.order := by
  have ascending (packages : List FilePath) :
      ((sorted packages).map FilePath.order).Pairwise (· ≤ ·) :=
    List.pairwise_map.mpr (pairwise_sorted FilePath.order packages)
  have sorts : (sorted first).Perm (sorted second) :=
    (List.mergeSort_perm ..).trans (perm.trans (List.mergeSort_perm ..).symm)
  exact (sorts.map _).eq_of_pairwise (fun _ _ _ _ => List.le_antisymm) (ascending first)
    (ascending second)

/-- **From the same packages the same applications are listed**, by their names, in the same
order. -/
theorem list_samePackages {folder : FilePath} {one two : Progress}
    (same : SamePackages folder one.tree two.tree) :
    (∃ failure, (list folder).run one = (.error failure, one) ∧
        (list folder).run two = (.error failure, two)) ∨
      ∃ applications others told told', applications.map name = others.map name ∧
        (list folder).run one = (.ok applications, { one with told := told }) ∧
        (list folder).run two = (.ok others, { two with told := told' }) := by
  unfold SamePackages packages? at same
  cases first : one.tree.list folder with
  | error fault =>
    cases second : two.tree.list folder with
    | error fault' => exact .inl ⟨_, list_of_unreadable first, list_of_unreadable second⟩
    | ok names =>
      rw [first, second] at same
      cases same
  | ok names =>
    cases second : two.tree.list folder with
    | error fault =>
      rw [first, second] at same
      cases same
    | ok names' =>
      rw [first, second] at same
      obtain ⟨told, listed⟩ := list_run first
      obtain ⟨told', listed'⟩ := list_run second
      cases same with
      | some perm =>
        exact .inr ⟨_, _, told, told', select_names_congr (sorted_order_congr perm) [], listed,
          listed'⟩

end ApkFeatures.Application
