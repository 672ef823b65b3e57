/-
**What is listed of a folder.**

An application is named after a file, without the ending `.apk` unless nothing stands before the
ending. So two files can have one name, and of these the first one in the order of paths is listed.
The list is determined by the files of the folder alone: it does not matter in which order the
folder shows them.

* `FilePath.cutName_iff` — where a name is cut.
* `FileTree.HasFile` — a folder has a file of a name.
* `IsNameFor`, `ofPackage?_join` — the name of the application in a file.
* `mem_select_iff` — of every name the first package is selected.
* `IsListing`, `IsListing.unique` — the applications of a folder, and that there is one such list.
* `list_canonical` — what is listed, in whatever order the files are shown.
-/
import ApkFeatures.Proofs.Application
import ApkFeatures.Proofs.FileTree.Descending
import ApkFeatures.Proofs.Text.Utf8

namespace ApkFeatures

open FilePath FileTree

namespace FilePath

/-! ### Endings -/

variable {name stem ending : Bytes}

theorem takeWhile_undotted (undotted : dot ∉ ending) (before : Bytes) :
    (ending.reverse ++ before).takeWhile (· ≠ dot) =
      ending.reverse ++ before.takeWhile (· ≠ dot) :=
  List.takeWhile_append_of_pos fun _ member =>
    decide_eq_true fun same => undotted (same ▸ List.mem_reverse.mp member)

/-- **A name is cut at its last dot**, unless it begins there. -/
theorem cutName_append (undotted : dot ∉ ending) :
    cutName (stem ++ dot :: ending) =
      if stem = [] then (dot :: ending, none) else (stem, some ending) := by
  have last : ((stem ++ dot :: ending).reverse.takeWhile (· ≠ dot)).reverse = ending := by
    rw [List.reverse_append, List.reverse_cons, List.append_assoc, takeWhile_undotted undotted,
      List.singleton_append, List.takeWhile_cons_of_neg (by simp), List.append_nil,
      List.reverse_reverse]
  have length : (stem ++ dot :: ending).length - ending.length - 1 = stem.length := by
    rw [List.length_append, List.length_cons]
    omega
  rw [cutName, last, length, List.take_left' rfl]
  by_cases hidden : stem = []
  · rw [if_pos hidden, if_pos hidden, hidden, List.nil_append]
  · rw [if_neg hidden, if_neg hidden]

theorem cutName_undotted (undotted : dot ∉ name) : cutName name = (name, none) := by
  have whole : (name.reverse.takeWhile (· ≠ dot)).reverse = name := by
    rw [← List.append_nil name.reverse, takeWhile_undotted undotted, List.takeWhile_nil,
      List.append_nil, List.reverse_reverse]
  rw [cutName, whole, Nat.sub_self, Nat.zero_sub, List.take_zero]
  exact if_pos rfl

/-- A name has an ending just if something stands before a dot, and the ending after it. -/
theorem cutName_iff : cutName name = (stem, some ending) ↔
    stem ≠ [] ∧ dot ∉ ending ∧ name = stem ++ dot :: ending := by
  constructor
  · intro cut
    by_cases dotted : dot ∈ name
    · obtain ⟨last, before, split, undotted⟩ :=
        List.eq_append_cons_of_mem (List.mem_reverse.mpr dotted)
      have whole : name = before.reverse ++ dot :: last.reverse := by
        rw [← List.reverse_reverse name, split, List.reverse_append, List.reverse_cons,
          List.append_assoc, List.singleton_append]
      rw [← List.mem_reverse] at undotted
      rw [whole, cutName_append undotted] at cut
      by_cases hidden : before.reverse = []
      · rw [if_pos hidden] at cut
        cases cut
      · rw [if_neg hidden] at cut
        cases cut
        exact ⟨hidden, undotted, whole⟩
    · rw [cutName_undotted dotted] at cut
      cases cut
  · rintro ⟨started, undotted, rfl⟩
    rw [cutName_append undotted, if_neg started]

end FilePath

namespace FileTree

variable {tree : FileTree} {folder : FilePath} {name : Bytes}

/-! ### Files in a folder -/

/-- The folder has a file of the name, and a path leads there. -/
structure HasFile (tree : FileTree) (folder : FilePath) (name : Bytes) : Prop where
  /-- It is the name of one thing in a folder. -/
  named : IsName name
  /-- At the place of the name there is a file. -/
  isFile : ∃ place content executable, tree.Reaches folder name place ∧
    tree.lookup? (name :: place) = some (.file content executable)

theorem isFile_join (named : IsName name) :
    tree.isFile (folder.join ⟨name⟩) = true ↔ tree.HasFile folder name := by
  rw [isFile_iff]
  constructor
  · rintro ⟨next, content, executable, found⟩
    obtain ⟨located, file⟩ := find?_eq_ok_iff.mp found
    obtain ⟨place, reaches, rfl⟩ := (locate_join_iff named).mp located
    exact ⟨named, place, content, executable, reaches, file⟩
  · rintro ⟨-, place, content, executable, reaches, file⟩
    have located := (locate_join_iff named).mpr ⟨place, reaches, rfl⟩
    exact ⟨name :: place, content, executable, find?_eq_ok_iff.mpr ⟨located, file⟩⟩

/-- The order in which a tree holds its entries does not matter. -/
theorem HasFile.of_lookup {other : FileTree} (base : tree.workingFolder = other.workingFolder)
    (same : ∀ place, tree.lookup? place = other.lookup? place) (has : tree.HasFile folder name) :
    other.HasFile folder name := by
  obtain ⟨named, place, content, executable, ⟨usable, opens, short⟩, file⟩ := has
  have followed := follow_of_folders (fun inFolder => (same _).symm.trans inFolder) opens.followed
  rw [base] at followed
  refine ⟨named, place, content, executable, ⟨usable, ⟨followed, ?_⟩, short⟩, ?_⟩
  · rw [← same, opens.inFolder]
  · rw [← same, file]

theorem list_eq_ok_iff {names : List Bytes} :
    tree.list folder = .ok names ↔
      ∃ place, tree.find? folder = .ok (place, .folder) ∧ names = tree.names place := by
  refine Fallible.bind_eq_ok_iff.trans ⟨?_, ?_⟩
  · rintro ⟨⟨place, entry⟩, found, given⟩
    cases entry with
    | file => cases given
    | folder =>
      cases given
      exact ⟨place, found, rfl⟩
  · rintro ⟨place, found, rfl⟩
    exact ⟨_, found, rfl⟩

end FileTree

namespace Application

/-- The name of the application in a file: that of the file without the ending `.apk`, if something
stands before the ending. -/
def IsNameFor (name file : String) : Prop :=
  (name ≠ "" ∧ file = name ++ ".apk") ∨
    (name = file ∧ ∀ stem, stem ≠ "" → file ≠ stem ++ ".apk")

/-- Every file has one name for its application. -/
theorem existsUnique_isNameFor (file : String) : ∃! name, IsNameFor name file := by
  by_cases ends : ∃ stem, stem ≠ "" ∧ file = stem ++ ".apk"
  · obtain ⟨stem, written, rfl⟩ := ends
    refine ⟨stem, .inl ⟨written, rfl⟩, ?_⟩
    rintro name (⟨-, same⟩ | ⟨-, never⟩)
    · exact (String.append_left_inj _).mp same.symm
    · exact absurd rfl (never stem written)
  · have never : ∀ stem, stem ≠ "" → file ≠ stem ++ ".apk" := fun stem written same =>
      ends ⟨stem, written, same⟩
    refine ⟨file, .inr ⟨rfl, never⟩, ?_⟩
    rintro name (⟨written, same⟩ | ⟨same, -⟩)
    · exact absurd same (never name written)
    · exact same

theorem encode_eq_nil {text : String} : Text.encode text = [] ↔ text = "" :=
  @Text.encode_inj text ""

variable {tree : FileTree} {folder : FilePath} {application : Application} {name front : Bytes}

theorem apk_bytes : Text.encode ".apk" = dot :: Text.encode "apk" := by decide

theorem nameBytes?_of_apk (named : IsName name) (started : front ≠ [])
    (whole : name = front ++ Text.encode ".apk") :
    nameBytes? (folder.join ⟨name⟩) = some front := by
  have cut : cutName name = (front, some (Text.encode "apk")) :=
    cutName_iff.mpr ⟨started, by decide, whole.trans (by rw [apk_bytes])⟩
  rw [nameBytes?, ending?, stem?, fileName?_join named, Option.bind_some, Option.map_some, cut]
  exact if_pos rfl

theorem nameBytes?_of_other (named : IsName name)
    (other : ∀ front, front ≠ [] → name ≠ front ++ Text.encode ".apk") :
    nameBytes? (folder.join ⟨name⟩) = some name := by
  have ending : (cutName name).2 ≠ some (Text.encode "apk") := fun apk => by
    obtain ⟨started, -, whole⟩ := cutName_iff.mp (Prod.ext (@rfl _ (cutName name).1) apk)
    exact other _ started (whole.trans (by rw [apk_bytes]))
  rw [nameBytes?, ending?, fileName?_join named, Option.bind_some, if_neg ending]

/-- **The application of a package is named after the file**, if the name of the file is a text. -/
theorem ofPackage?_join (named : IsName name) :
    ofPackage? (folder.join ⟨name⟩) = some application ↔
      ∃ file, name = Text.encode file ∧ IsNameFor application.name file ∧
        application.package = folder.join ⟨name⟩ := by
  rw [ofPackage?, Option.map_eq_some_iff]
  by_cases ends : ∃ front, front ≠ [] ∧ name = front ++ Text.encode ".apk"
  · obtain ⟨front, started, whole⟩ := ends
    rw [nameBytes?_of_apk named started whole, Option.bind_some]
    constructor
    · rintro ⟨stem, read, rfl⟩
      have bytes := Text.encode_of_decode? read
      refine ⟨stem ++ ".apk", ?_, .inl ⟨?_, rfl⟩, rfl⟩
      · rw [whole, ← bytes, Text.encode_append]
      · rwa [← bytes, Ne, encode_eq_nil] at started
    · rintro ⟨file, rfl, isName, package⟩
      obtain ⟨stem, rfl⟩ := (Text.exists_encode_append_iff whole.symm).mpr ⟨".apk", rfl⟩
      rw [← Text.encode_append, Text.encode_inj] at whole
      have written : stem ≠ "" := encode_eq_nil.not.mp started
      have same := (existsUnique_isNameFor file).unique isName (.inl ⟨written, whole⟩)
      exact ⟨stem, Text.decode?_encode stem, by rw [← same, ← package]⟩
  · have other : ∀ front, front ≠ [] → name ≠ front ++ Text.encode ".apk" :=
      fun front started whole => ends ⟨front, started, whole⟩
    rw [nameBytes?_of_other named other, Option.bind_some]
    constructor
    · rintro ⟨file, read, rfl⟩
      have bytes := Text.encode_of_decode? read
      refine ⟨file, bytes.symm, .inr ⟨rfl, ?_⟩, rfl⟩
      rintro stem written rfl
      exact other _ (encode_eq_nil.not.mpr written) (bytes.symm.trans (Text.encode_append _ _))
    · rintro ⟨file, rfl, ⟨written, rfl⟩ | ⟨rfl, -⟩, package⟩
      · exact absurd (Text.encode_append _ _) (other _ (encode_eq_nil.not.mpr written))
      · exact ⟨application.name, Text.decode?_encode _, by rw [← package]⟩

/-! ### The first package of a name -/

/-- The application of the package has the name. -/
def hasName (name : String) (package : FilePath) : Bool :=
  (ofPackage? package).map Application.name = some name

theorem hasName_iff {name : String} {package : FilePath} : hasName name package = true ↔
    ∃ application, ofPackage? package = some application ∧ application.name = name :=
  decide_eq_true_iff.trans Option.map_eq_some_iff

theorem hasName_of_ofPackage? {name : String} {package : FilePath}
    (made : ofPackage? package = some application) :
    hasName name package = true ↔ application.name = name := by
  rw [hasName, made, decide_eq_true_iff, Option.map_some, Option.some.injEq]

theorem package_of_ofPackage? {package : FilePath} (made : ofPackage? package = some application) :
    application.package = package := by
  obtain ⟨name, -, rfl⟩ := Option.map_eq_some_iff.mp made
  rfl

/-- Packages are selected in the order in which they are given. -/
theorem select_sublist (taken : List String) (packages : List FilePath) :
    ((select taken packages).1.map package).Sublist packages := by
  fun_induction select taken packages with
  | case1 => exact .slnil
  | case2 taken package rest missing kept omitted later ih =>
    rw [later] at ih
    exact ih.cons _
  | case3 taken package rest found made isTaken kept omitted later ih =>
    rw [later] at ih
    exact ih.cons _
  | case4 taken package rest found made isFree kept omitted later ih =>
    rw [later] at ih
    rw [List.map_cons, package_of_ofPackage? made]
    exact ih.cons_cons _

/-- **Of every name that is not taken the first package is selected.** -/
theorem mem_select_iff {taken : List String} {packages : List FilePath} :
    application ∈ (select taken packages).1 ↔
      application.name ∉ taken ∧ ofPackage? application.package = some application ∧
        packages.find? (hasName application.name) = some application.package := by
  fun_induction select taken packages with
  | case1 => simp
  | case2 taken package rest missing kept omitted later ih =>
    have other : ¬ hasName application.name package = true := by simp [hasName, missing]
    rw [later] at ih
    rw [List.find?_cons_of_neg other, ← ih]
  | case3 taken package rest found made isTaken kept omitted later ih =>
    rw [later] at ih
    refine ih.trans (and_congr_right fun fresh => ?_)
    have other : ¬ hasName application.name package = true := fun first =>
      fresh ((hasName_of_ofPackage? made).mp first ▸ List.contains_iff_mem.mp isTaken)
    rw [List.find?_cons_of_neg other]
  | case4 taken package rest found made isFree kept omitted later ih =>
    rw [later] at ih
    have fresh : found.name ∉ taken := fun old => isFree (List.contains_iff_mem.mpr old)
    refine List.mem_cons.trans ?_
    by_cases same : found.name = application.name
    · -- The name is taken from here on, so what has it is the first package.
      have first : hasName application.name package = true := (hasName_of_ofPackage? made).mpr same
      have later : application ∉ kept := fun member => (ih.mp member).1 (same ▸ List.mem_cons_self)
      rw [List.find?_cons_of_pos first, or_iff_left later, ← same]
      constructor
      · rintro rfl
        rw [package_of_ofPackage? made]
        exact ⟨fresh, made, rfl⟩
      · rintro ⟨-, made', here⟩
        rw [← Option.some.inj here, made] at made'
        exact (Option.some.inj made').symm
    · have other : ¬ hasName application.name package = true :=
        mt (hasName_of_ofPackage? made).mp same
      have apart : application ≠ found := fun equal => same (congrArg name equal.symm)
      rw [List.find?_cons_of_neg other, or_iff_right apart]
      refine ih.trans ?_
      rw [List.mem_cons, not_or]
      simp [Ne.symm same]

/-! ### Packages of a folder -/

theorem order_join_inj {first second : Bytes} (isName : IsName first) (isName' : IsName second)
    (same : (folder.join ⟨first⟩).order = (folder.join ⟨second⟩).order) : first = second := by
  rw [order_inj, components_join isName, components_join isName'] at same
  simpa using same

/-- A name is before those that go on. -/
theorem order_join_le {more : Bytes} (named : IsName name) (named' : IsName (name ++ more)) :
    (folder.join ⟨name⟩).order ≤ (folder.join ⟨name ++ more⟩).order := by
  rw [order, order, components_join named, components_join named', List.map_append, List.map_append]
  refine List.append_left_le ?_
  show [3 :: name] ≤ [3 :: (name ++ more)]
  have goesOn : 3 :: name ≤ (3 :: name) ++ more := List.le_append_left
  rw [List.cons_le_cons_iff]
  rcases List.le_iff_lt_or_eq.mp goesOn with before | same
  · exact .inl before
  · exact .inr ⟨same, List.le_refl _⟩

section Packages

variable {names : List Bytes} (readable : tree.list folder = .ok names)
  (named : ∀ name ∈ names, IsName name)

include readable

/-- The files of a folder are among its names. -/
theorem mem_of_hasFile (file : tree.HasFile folder name) : name ∈ names := by
  obtain ⟨place, found, rfl⟩ := list_eq_ok_iff.mp readable
  obtain ⟨-, place', content, executable, reaches, there⟩ := file
  have located := locate_place (find?_eq_ok_iff.mp found).1
  rw [reaches.opens.place_eq, ← located] at there
  exact mem_names.mpr (by rw [there]; rfl)

include named

/-- **The packages in a folder are its files.** -/
theorem mem_packages_iff {package : FilePath} :
    package ∈ (names.map fun name => folder.join ⟨name⟩).filter tree.isFile ↔
      ∃ name, tree.HasFile folder name ∧ package = folder.join ⟨name⟩ := by
  rw [List.mem_filter, List.mem_map]
  constructor
  · rintro ⟨⟨name, member, rfl⟩, file⟩
    exact ⟨name, (isFile_join (named name member)).mp file, rfl⟩
  · rintro ⟨name, file, rfl⟩
    exact ⟨⟨name, mem_of_hasFile readable file, rfl⟩, (isFile_join file.named).mpr file⟩

/-- The packages in a folder have different ranks. -/
theorem nodup_packages :
    (((names.map fun name => folder.join ⟨name⟩).filter tree.isFile).map order).Nodup := by
  obtain ⟨place, -, rfl⟩ := list_eq_ok_iff.mp readable
  have all : (((tree.names place).map fun name => folder.join ⟨name⟩).map order).Nodup := by
    rw [List.map_map]
    refine List.Nodup.map_on (fun first member second member' same => ?_) (nodup_names tree place)
    exact order_join_inj (named first member) (named second member') same
  exact all.sublist (List.filter_sublist.map order)

/-- In order, every package in a folder comes strictly after those before it. -/
theorem pairwise_lt_packages :
    (sorted ((names.map fun name => folder.join ⟨name⟩).filter tree.isFile)).Pairwise
      fun before after => before.order < after.order := by
  let packages := (names.map fun name => folder.join ⟨name⟩).filter tree.isFile
  have perm : (sorted packages).Perm packages := List.mergeSort_perm ..
  have apart : ((sorted packages).map order).Nodup :=
    (perm.map order).nodup_iff.mpr (nodup_packages readable named)
  exact ((pairwise_sorted order packages).and (List.pairwise_map.mp apart)).imp
    fun ⟨before, different⟩ => Std.lt_of_le_of_ne before different

end Packages

/-! ### The list -/

/-- **The applications of a folder**: one for every name that goes with one of its files. -/
structure IsListing (tree : FileTree) (folder : FilePath) (applications : List Application) :
    Prop where
  /-- The packages are in ascending order. -/
  ascending : applications.Pairwise fun first second => first.package.order < second.package.order
  /-- The names are different. -/
  distinct : (applications.map Application.name).Nodup
  /-- Every package is a file of the folder, and the application is named after it. -/
  kept : ∀ application ∈ applications, ∃ file, tree.HasFile folder (Text.encode file) ∧
    IsNameFor application.name file ∧ application.package = folder.child file
  /-- It is the first file for which this is the name. -/
  least : ∀ application ∈ applications, ∀ file, tree.HasFile folder (Text.encode file) →
    IsNameFor application.name file → application.package.order ≤ (folder.child file).order
  /-- So it is the file that has just this name, if there is one. -/
  bare : ∀ application ∈ applications, tree.HasFile folder (Text.encode application.name) →
    IsNameFor application.name application.name →
      application.package = folder.child application.name
  /-- For every file there is an application with the name that goes with it. -/
  complete : ∀ file, tree.HasFile folder (Text.encode file) →
    ∃ application ∈ applications, IsNameFor application.name file

theorem order_le_of_find? {packages : List FilePath} {holds : FilePath → Bool}
    {first other : FilePath}
    (ascending : packages.Pairwise fun before after => before.order ≤ after.order)
    (found : packages.find? holds = some first) (member : other ∈ packages)
    (also : holds other = true) : first.order ≤ other.order := by
  obtain ⟨-, before, after, rfl, fails⟩ := List.find?_eq_some_iff_append.mp found
  rcases List.mem_append.mp member with earlier | later
  · have never := fails other earlier
    simp [also] at never
  · rcases List.mem_cons.mp later with rfl | later
    · exact List.le_refl _
    · exact List.rel_of_pairwise_cons (List.pairwise_append.mp ascending).2.1 later

theorem IsListing.mem_of_mem {other : FileTree} {first second : List Application}
    (same : ∀ file, tree.HasFile folder (Text.encode file) ↔
      other.HasFile folder (Text.encode file))
    (listing : IsListing tree folder first) (listing' : IsListing other folder second)
    (member : application ∈ first) : application ∈ second := by
  obtain ⟨file, has, isName, package⟩ := listing.kept application member
  obtain ⟨twin, member', isName'⟩ := listing'.complete file ((same file).mp has)
  obtain ⟨file', has', isName'', package'⟩ := listing'.kept twin member'
  have names : twin.name = application.name :=
    (existsUnique_isNameFor file).unique isName' isName
  have below : application.package.order ≤ twin.package.order := by
    rw [package']
    exact listing.least application member file' ((same file').mpr has') (names ▸ isName'')
  have above : twin.package.order ≤ application.package.order := by
    rw [package]
    exact listing'.least twin member' file ((same file).mp has) isName'
  have orders := List.le_antisymm below above
  rw [package, package'] at orders
  have files : file = file' := Text.encode_inj.mp (order_join_inj has.named has'.named orders)
  have whole : application = twin := by
    obtain ⟨name, path⟩ := application
    obtain ⟨name', path'⟩ := twin
    cases names
    cases package
    cases package'
    rw [files]
  exact whole ▸ member'

/-- **A folder has one list of applications**, told by the files with a text for a name. -/
theorem IsListing.unique {other : FileTree} {first second : List Application}
    (same : ∀ file, tree.HasFile folder (Text.encode file) ↔
      other.HasFile folder (Text.encode file))
    (listing : IsListing tree folder first) (listing' : IsListing other folder second) :
    first = second := by
  have members : first.Perm second :=
    (List.perm_ext_iff_of_nodup listing.distinct.of_map listing'.distinct.of_map).mpr
      fun application => ⟨listing.mem_of_mem same listing',
        listing'.mem_of_mem (fun file => (same file).symm) listing⟩
  refine members.eq_of_pairwise (fun _ _ _ _ before after => ?_) listing.ascending
    listing'.ascending
  exact absurd after (List.lt_asymm before)

/-- A name that goes with a file is that of its package. -/
theorem hasName_child {file name : String} (has : tree.HasFile folder (Text.encode file))
    (isName : IsNameFor name file) : hasName name (folder.child file) = true :=
  hasName_iff.mpr ⟨⟨name, folder.child file⟩,
    (ofPackage?_join has.named).mpr ⟨file, rfl, isName, rfl⟩, rfl⟩

/-- Of the files with a name only the one that has just this name can come before it: with the
ending it comes later. -/
theorem child_eq_of_order_le {file name : String} (bare : tree.HasFile folder (Text.encode name))
    (has : tree.HasFile folder (Text.encode file)) (isName : IsNameFor name file)
    (before : (folder.child file).order ≤ (folder.child name).order) :
    folder.child file = folder.child name := by
  obtain ⟨-, rfl⟩ | ⟨rfl, -⟩ := isName
  · have ending := has.named
    rw [child, ofString, Text.encode_append] at before
    rw [Text.encode_append] at ending
    have files := order_join_inj ending bare.named
      (List.le_antisymm before (order_join_le bare.named ending))
    exact absurd (List.append_right_eq_self.mp files) (by decide)
  · rfl

section Selected

variable {packages : List FilePath}
  (files : ∀ {package}, package ∈ packages ↔
    ∃ name, tree.HasFile folder name ∧ package = folder.join ⟨name⟩)

include files

/-- What is selected is a file of the folder, under the name that goes with it. -/
theorem exists_file_of_mem_select (selected : application ∈ (select [] packages).1) :
    ∃ file, tree.HasFile folder (Text.encode file) ∧ IsNameFor application.name file ∧
      application.package = folder.child file := by
  obtain ⟨-, made, found⟩ := mem_select_iff.mp selected
  obtain ⟨name, has, package⟩ := files.mp (List.mem_of_find?_eq_some found)
  rw [package] at made
  obtain ⟨file, rfl, isName, -⟩ := (ofPackage?_join has.named).mp made
  exact ⟨file, has, isName, package⟩

/-- For every file something is selected under the name that goes with it. -/
theorem exists_mem_select {file : String} (has : tree.HasFile folder (Text.encode file)) :
    ∃ application ∈ (select [] packages).1, IsNameFor application.name file := by
  obtain ⟨name, isName, -⟩ := existsUnique_isNameFor file
  have isSome : ((packages.find? (hasName name)).isSome) = true :=
    List.find?_isSome.mpr ⟨_, files.mpr ⟨_, has, rfl⟩, hasName_child has isName⟩
  obtain ⟨package, found⟩ := Option.isSome_iff_exists.mp isSome
  obtain ⟨application, made, rfl⟩ := hasName_iff.mp (List.find?_some found)
  refine ⟨application, mem_select_iff.mpr ⟨List.not_mem_nil, ?_⟩, isName⟩
  rw [package_of_ofPackage? made]
  exact ⟨made, found⟩

end Selected

/-- **What is listed of a folder.** -/
theorem isListing_select {names : List Bytes} (readable : tree.list folder = .ok names)
    (named : ∀ name ∈ names, IsName name) :
    IsListing tree folder (select [] (sorted ((names.map fun name => folder.join ⟨name⟩).filter
      tree.isFile))).1 := by
  let packages := sorted ((names.map fun name => folder.join ⟨name⟩).filter tree.isFile)
  have files {package : FilePath} : package ∈ packages ↔
      ∃ name, tree.HasFile folder name ∧ package = folder.join ⟨name⟩ :=
    (List.mergeSort_perm _ _).mem_iff.trans (mem_packages_iff readable named)
  have inOrder := (pairwise_lt_packages readable named).sublist (select_sublist [] packages)
  rw [List.pairwise_map] at inOrder
  have least : ∀ application ∈ (select [] packages).1, ∀ file,
      tree.HasFile folder (Text.encode file) → IsNameFor application.name file →
        application.package.order ≤ (folder.child file).order := by
    intro application selected file has isName
    obtain ⟨-, -, found⟩ := mem_select_iff.mp selected
    exact order_le_of_find? (pairwise_sorted order _) found (files.mpr ⟨_, has, rfl⟩)
      (hasName_child has isName)
  refine ⟨inOrder, (select_names packages []).1,
    fun _ => exists_file_of_mem_select files, least, ?_, fun _ => exists_mem_select files⟩
  intro application selected bare isName
  have before := least application selected application.name bare isName
  obtain ⟨file, has, isName', package⟩ := exists_file_of_mem_select files selected
  rw [package] at before ⊢
  exact child_eq_of_order_le bare has isName' before

/-- **Listing a folder is canonical.** Whatever the folder holds and in whatever order it shows its
names, the same applications are listed, those told by its files, and no file is changed. -/
theorem list_canonical {one two : Progress} {names shown : List Bytes}
    (readable : one.tree.list folder = .ok names) (named : ∀ name ∈ names, IsName name)
    (readable' : two.tree.list folder = .ok shown) (named' : ∀ name ∈ shown, IsName name)
    (same : ∀ file, one.tree.HasFile folder (Text.encode file) ↔
      two.tree.HasFile folder (Text.encode file)) :
    ∃ applications told told', IsListing one.tree folder applications ∧
      (list folder).run one = (.ok applications, { one with told := told }) ∧
        (list folder).run two = (.ok applications, { two with told := told' }) := by
  obtain ⟨told, listed⟩ := list_run readable
  obtain ⟨told', listed'⟩ := list_run readable'
  have listing := isListing_select readable named
  have equal := listing.unique same (isListing_select readable' named')
  exact ⟨_, told, told', listing, listed, by rw [equal, listed']⟩

/-- Two packages of one name, the shorter one shown last. -/
def bareLast : FileTree :=
  let one := FileTree.empty.put [] (Text.encode "c") (.file [99] false) folder_root (by decide)
  one.put [] (Text.encode "c.apk") (.file [99, 99] false) (by decide) (by decide)

/-- The same packages, shown the other way round. -/
def bareFirst : FileTree :=
  let one := FileTree.empty.put [] (Text.encode "c.apk") (.file [99, 99] false) folder_root
    (by decide)
  one.put [] (Text.encode "c") (.file [99] false) (by decide) (by decide)

theorem lookup?_bareFirst (place : Location) :
    bareLast.lookup? place = bareFirst.lookup? place := by
  have apart : [Text.encode "c.apk"] ≠ [Text.encode "c"] := by decide
  rw [bareLast, bareFirst, lookup?_put, lookup?_put, lookup?_put, lookup?_put]
  by_cases bare : place = [Text.encode "c"]
  · rw [if_neg (bare ▸ apart.symm), if_pos bare, if_pos bare]
  · rw [if_neg bare, if_neg bare]

theorem list_canonical_sample :
    bareLast.list (.ofString "/") = .ok [Text.encode "c.apk", Text.encode "c"] ∧
      bareFirst.list (.ofString "/") = .ok [Text.encode "c", Text.encode "c.apk"] ∧
        ∃ applications told told', IsListing bareLast (.ofString "/") applications ∧
          ⟨"c", .ofString "/c"⟩ ∈ applications ∧
          (list (.ofString "/")).run ⟨bareLast, []⟩ = (.ok applications, ⟨bareLast, told⟩) ∧
            (list (.ofString "/")).run ⟨bareFirst, []⟩ =
              (.ok applications, ⟨bareFirst, told'⟩) := by
  have named : ∀ name ∈ [Text.encode "c", Text.encode "c.apk"], IsName name := by
    intro name member
    rcases List.mem_pair.mp member with rfl | rfl
    · exact ⟨by decide, by decide, by decide⟩
    · exact ⟨by decide, by decide, by decide⟩
  have readable : bareLast.list (.ofString "/") = .ok [Text.encode "c.apk", Text.encode "c"] := by
    decide
  have readable' : bareFirst.list (.ofString "/") = .ok [Text.encode "c", Text.encode "c.apk"] := by
    decide
  obtain ⟨applications, told, told', listing, listed, listed'⟩ :=
    @list_canonical (.ofString "/") ⟨bareLast, []⟩ ⟨bareFirst, []⟩ _ _ readable
      (fun name member => named name (by simpa [or_comm] using member)) readable' named
      fun file => ⟨.of_lookup rfl lookup?_bareFirst,
        .of_lookup rfl fun place => (lookup?_bareFirst place).symm⟩
  have bare : bareLast.HasFile (.ofString "/") (Text.encode "c") :=
    (isFile_join ⟨by decide, by decide, by decide⟩).mp (by decide)
  have isName : IsNameFor "c" "c" := .inr ⟨rfl, fun stem _ same => by
    have length : 1 = stem.length + 4 := (congrArg String.length same).trans
      (String.length_append _ _)
    omega⟩
  obtain ⟨application, member, isName'⟩ := listing.complete "c" bare
  have name := (existsUnique_isNameFor "c").unique isName' isName
  have package := listing.bare application member (name ▸ bare) (name ▸ isName)
  refine ⟨readable, readable', applications, told, told', listing, ?_, listed, listed'⟩
  have whole : application = ⟨"c", .ofString "/c"⟩ := by
    obtain ⟨_, path⟩ := application
    cases name
    have path_eq : (ofString "/").child "c" = .ofString "/c" := by decide
    exact congrArg (Application.mk "c") (package.trans path_eq)
  exact whole ▸ member

end Application

end ApkFeatures
