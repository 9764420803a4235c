import ReleaseDrift.Proofs.Grouping
import ReleaseDrift.Proofs.Json.Fields
import ReleaseDrift.Proofs.PackageDir

/-!
What a usage file may look like, and the index that it is read as.
-/

namespace ReleaseDrift

open Json (Written)
open SortedSet (Ascending)

namespace Json.Written

def ofTexts (texts : List String) : Written := .arr (texts.map fun text => .str (some text))

theorem texts?_eq_some_iff (value : Written) (texts : List String) :
    value.texts? = some texts ↔ value = ofTexts texts := by
  have text (item : Written) (text : String) :
      item.text? = some text ↔ item = .str (some text) := by
    cases item <;> simp [text?]
  cases value with
  | arr items =>
      simp only [texts?, mapM_eq_some_iff, text, ofTexts, arr.injEq]
      rw [← List.forall₂_map_right_iff (f := fun text => str (some text)) (R := Eq),
        List.forall₂_eq_eq_eq]
  | _ => simp [texts?, ofTexts]

theorem field?_eq_some_iff (members : List (Option String × Written)) (name : String)
    (value? : Option Written) :
    field? members [name] = some value? ↔
      members.filter (·.1 = some name) = (value?.map fun value => (some name, value)).toList := by
  have known : (fun member : Option String × Written => member.1.any ([name].contains ·)) =
      fun member => decide (member.1 = some name) := by
    funext member
    cases member.1 <;> simp
  have named : ∀ member ∈ members.filter (·.1 = some name), member.1 = some name :=
    fun member kept => of_decide_eq_true (List.mem_filter.mp kept).2
  rw [field?, known]
  generalize members.filter (·.1 = some name) = kept at named ⊢
  rcases kept with _ | ⟨⟨other, value⟩, _ | ⟨next, rest⟩⟩
  · cases value? <;> simp
  · have same : other = some name := named _ List.mem_cons_self
    cases value? <;> simp [same]
  · cases value? <;> simp

end Json.Written

namespace Usage

def member (name : String) (texts? : Option (List String)) : List (Option String × Written) :=
  (texts?.map fun texts => (some name, Written.ofTexts texts)).toList

/-- An object with some of the three lists, each given once, or the lists in their order, from
    which the last ones may be left out. -/
inductive IsIndex : Written → (models files packages : List String) → Prop
  | object {members : List (Option String × Written)} (models files packages : Option (List String))
      (given : members.Perm
        (member "models" models ++ member "files" files ++ member "packages" packages)) :
      IsIndex (.obj members) (models.getD []) (files.getD []) (packages.getD [])
  | lists (lists : List (List String)) (few : lists.length ≤ 3) :
      IsIndex (.arr (lists.map Written.ofTexts)) (lists[0]?.getD []) (lists[1]?.getD [])
        (lists[2]?.getD [])

def listed? : Option Written → Option (List String)
  | none => some []
  | some value => value.texts?

theorem listed?_eq_some_iff (value? : Option Written) (texts : List String) :
    listed? value? = some texts ↔
      ∃ texts? : Option (List String), value? = texts?.map Written.ofTexts ∧
        texts = texts?.getD [] := by
  constructor
  · intro read
    cases value? with
    | none =>
        cases read
        exact ⟨none, rfl, rfl⟩
    | some value =>
        exact ⟨some texts, congrArg some ((Written.texts?_eq_some_iff value texts).mp read), rfl⟩
  · rintro ⟨texts?, rfl, rfl⟩
    cases texts? with
    | none => rfl
    | some texts => exact (Written.texts?_eq_some_iff _ texts).mpr rfl

def ofFields? (models files packages : Option Written) : Option Usage := do
  let models ← listed? models
  let files ← listed? files
  let packages ← listed? packages
  return { models := SortedSet.ofList models, files := SortedSet.ofList files,
           packages := SortedSet.ofList packages }

def ofLists (models files packages : List String) : Usage :=
  { models := SortedSet.ofList models, files := SortedSet.ofList files,
    packages := SortedSet.ofList packages }

theorem ofFields?_eq_some_iff (models files packages : Option Written) (usage : Usage) :
    ofFields? models files packages = some usage ↔
      ∃ modelTexts fileTexts packageTexts : Option (List String),
        models = modelTexts.map Written.ofTexts ∧ files = fileTexts.map Written.ofTexts ∧
          packages = packageTexts.map Written.ofTexts ∧
          usage = ofLists (modelTexts.getD []) (fileTexts.getD []) (packageTexts.getD []) := by
  simp only [ofFields?, Option.bind_eq_bind, Option.bind_eq_some_iff, listed?_eq_some_iff]
  constructor
  · rintro ⟨_, ⟨m, rfl, rfl⟩, _, ⟨f, rfl, rfl⟩, _, ⟨p, rfl, rfl⟩, same⟩
    cases same
    exact ⟨m, f, p, rfl, rfl, rfl, rfl⟩
  · rintro ⟨m, f, p, rfl, rfl, rfl, rfl⟩
    exact ⟨_, ⟨m, rfl, rfl⟩, _, ⟨f, rfl, rfl⟩, _, ⟨p, rfl, rfl⟩, rfl⟩

theorem ofWritten?_arr {items : List Written} (few : items.length ≤ 3) :
    ofWritten? (.arr items) = ofFields? items[0]? items[1]? items[2]? := by
  match items with
  | [] | [_] | [_, _] | [_, _, _] => rfl
  | _ :: _ :: _ :: _ :: _ =>
      simp only [List.length_cons] at few
      omega

theorem exists_lists {items : List Written} (few : items.length ≤ 3)
    {models files packages : Option (List String)}
    (first : items[0]? = models.map Written.ofTexts)
    (second : items[1]? = files.map Written.ofTexts)
    (third : items[2]? = packages.map Written.ofTexts) :
    ∃ lists : List (List String), items = lists.map Written.ofTexts ∧ lists[0]? = models ∧
      lists[1]? = files ∧ lists[2]? = packages := by
  refine ⟨models.toList ++ files.toList ++ packages.toList, ?_⟩
  match items with
  | [] | [_] | [_, _] | [_, _, _] =>
      cases models <;> cases files <;> cases packages <;> simp_all
  | _ :: _ :: _ :: _ :: _ =>
      simp only [List.length_cons] at few
      omega

theorem ofWritten?_arr_of_more {items : List Written} (more : 3 < items.length) :
    ofWritten? (.arr items) = none := by
  simp [ofWritten?, Written.fields?, Nat.not_le.mpr more]

def known : List (Option String) := [some "models", some "files", some "packages"]

theorem all_known_iff (members : List (Option String × Written)) :
    (members.all fun member => member.1.any (["models", "files", "packages"].contains ·)) = true ↔
      ∀ entry ∈ members, entry.1 ∈ known := by
  rw [List.all_eq_true]
  refine forall₂_congr fun entry _ => ?_
  cases entry.1 with
  | none => simp [known]
  | some name => simp [known]

theorem known_of_ofWritten? {members : List (Option String × Written)} {usage : Usage}
    (read : ofWritten? (.obj members) = some usage) : ∀ entry ∈ members, entry.1 ∈ known := by
  rw [ofWritten?, Option.ite_none_left_eq_some] at read
  rw [← all_known_iff]
  simpa using read.1

theorem ofWritten?_obj {members : List (Option String × Written)}
    (clean : ∀ entry ∈ members, entry.1 ∈ known) :
    ofWritten? (.obj members) =
      (Written.field? members ["models"]).bind fun models =>
        (Written.field? members ["files"]).bind fun files =>
          (Written.field? members ["packages"]).bind fun packages =>
            ofFields? models files packages := by
  have named : members.all (·.1.isSome) = true := by
    rw [List.all_eq_true]
    intro entry member
    have name := clean entry member
    simp only [known, List.mem_cons, List.not_mem_nil, or_false] at name
    rcases name with name | name | name <;> rw [name] <;> rfl
  rw [ofWritten?]
  simp only [(all_known_iff members).mpr clean, Written.fields?, named, Bool.not_true,
    Bool.false_eq_true, if_false, if_true, List.map_cons, List.map_nil, List.mapM_cons,
    List.mapM_nil]
  cases Written.field? members ["models"] with
  | none => rfl
  | some models =>
      cases Written.field? members ["files"] with
      | none => rfl
      | some files => cases Written.field? members ["packages"] <;> rfl

theorem filter_member (name other : String) (texts? : Option (List String)) :
    (member name texts?).filter (·.1 = some other) =
      if name = other then member name texts? else [] := by
  cases texts? with
  | none => simp [member]
  | some texts => by_cases same : name = other <;> simp [member, same]

theorem perm_members_iff (members : List (Option String × Written))
    (models files packages : Option (List String)) :
    members.Perm (member "models" models ++ member "files" files ++ member "packages" packages) ↔
      (∀ entry ∈ members, entry.1 ∈ known) ∧
        Written.field? members ["models"] = some (models.map Written.ofTexts) ∧
        Written.field? members ["files"] = some (files.map Written.ofTexts) ∧
        Written.field? members ["packages"] = some (packages.map Written.ofTexts) := by
  have alone (name : String) (texts? : Option (List String)) :
      ((texts?.map Written.ofTexts).map fun value => (some name, value)).toList =
        member name texts? := by
    rw [Option.map_map]
    rfl
  constructor
  · intro given
    refine ⟨?_, ?_⟩
    · intro entry listed
      have found := given.subset listed
      simp only [member, List.mem_append, Option.mem_toList, Option.map_eq_some_iff] at found
      rcases found with (⟨_, _, rfl⟩ | ⟨_, _, rfl⟩) | ⟨_, _, rfl⟩ <;> simp [known]
    · simp only [Written.field?_perm given, Written.field?_eq_some_iff, List.filter_append,
        filter_member, alone]
      simp
  · rintro ⟨clean, first, second, third⟩
    rw [Written.field?_eq_some_iff, alone] at first second third
    have grouped : (known.flatMap fun name => members.filter (·.1 = name)).Perm members :=
      groups_perm Prod.fst (by decide) clean
    rw [known, List.flatMap_cons, List.flatMap_cons, List.flatMap_singleton, first, second, third,
      ← List.append_assoc] at grouped
    exact grouped.symm

theorem exists_isIndex_of_obj {members : List (Option String × Written)} {usage : Usage}
    (read : ofWritten? (.obj members) = some usage) :
    ∃ models files packages, IsIndex (.obj members) models files packages ∧
      usage = ofLists models files packages := by
  have clean := known_of_ofWritten? read
  rw [ofWritten?_obj clean] at read
  obtain ⟨_, first, read⟩ := Option.bind_eq_some_iff.mp read
  obtain ⟨_, second, read⟩ := Option.bind_eq_some_iff.mp read
  obtain ⟨_, third, read⟩ := Option.bind_eq_some_iff.mp read
  obtain ⟨models, files, packages, rfl, rfl, rfl, rfl⟩ :=
    (ofFields?_eq_some_iff _ _ _ usage).mp read
  have given := (perm_members_iff members models files packages).mpr ⟨clean, first, second, third⟩
  exact ⟨_, _, _, .object models files packages given, rfl⟩

theorem exists_isIndex_of_arr {items : List Written} {usage : Usage}
    (read : ofWritten? (.arr items) = some usage) :
    ∃ models files packages, IsIndex (.arr items) models files packages ∧
      usage = ofLists models files packages := by
  by_cases few : items.length ≤ 3
  · rw [ofWritten?_arr few] at read
    obtain ⟨models, files, packages, first, second, third, rfl⟩ :=
      (ofFields?_eq_some_iff _ _ _ usage).mp read
    obtain ⟨lists, rfl, rfl, rfl, rfl⟩ := exists_lists few first second third
    rw [List.length_map] at few
    exact ⟨_, _, _, .lists lists few, rfl⟩
  · rw [ofWritten?_arr_of_more (Nat.lt_of_not_le few)] at read
    cases read

theorem ofWritten?_of_isIndex {written : Written} {models files packages : List String}
    (form : IsIndex written models files packages) :
    ofWritten? written = some (ofLists models files packages) := by
  cases form with
  | @object members models files packages given =>
      obtain ⟨clean, first, second, third⟩ :=
        (perm_members_iff members models files packages).mp given
      rw [ofWritten?_obj clean, first, second, third]
      exact (ofFields?_eq_some_iff _ _ _ _).mpr ⟨models, files, packages, rfl, rfl, rfl, rfl⟩
  | lists lists few =>
      rw [ofWritten?_arr (by rwa [List.length_map]), ofFields?_eq_some_iff]
      exact ⟨_, _, _, List.getElem?_map, List.getElem?_map, List.getElem?_map, rfl⟩

theorem ofWritten?_eq_some_iff (written : Written) (usage : Usage) :
    ofWritten? written = some usage ↔
      ∃ models files packages, IsIndex written models files packages ∧
        usage = ofLists models files packages := by
  constructor
  · intro read
    cases written with
    | obj members => exact exists_isIndex_of_obj read
    | arr items => exact exists_isIndex_of_arr read
    | _ => cases read
  · rintro ⟨models, files, packages, form, rfl⟩
    exact ofWritten?_of_isIndex form

/-- A list with a name in it is no list of lists. -/
theorem ofWritten?_ofTexts_cons (name : String) (names : List String) :
    ofWritten? (Written.ofTexts (name :: names)) = none := by
  rw [Option.eq_none_iff_forall_ne_some]
  intro usage read
  obtain ⟨_, _, _, form, _⟩ := (ofWritten?_eq_some_iff _ usage).mp read
  generalize same : Written.ofTexts (name :: names) = written at form
  cases form with
  | object => cases same
  | lists lists few => cases lists <;> simp [Written.ofTexts] at same

def IsForm (written : Written) (models files packages : List String) : Prop :=
  IsIndex written models files packages ∨
    (written = Written.ofTexts models ∧ files = [] ∧ packages = [])

/-- The index that holds the given names, each package as its bare directory. -/
structure Holds (usage : Usage) (models files packages : List String) : Prop where
  modelsAscend : Ascending usage.models
  filesAscend : Ascending usage.files
  packagesAscend : Ascending usage.packages
  models : ∀ name, name ∈ usage.models ↔ name ∈ models
  files : ∀ path, path ∈ usage.files ↔ path ∈ files
  packages : ∀ package, package ∈ usage.packages ↔ ∃ written ∈ packages, IsBareOf package written

theorem Holds.unique {usage other : Usage} {models files packages : List String}
    (holds : usage.Holds models files packages) (also : other.Holds models files packages) :
    usage = other := by
  have models := holds.modelsAscend.eq_of_mem_iff also.modelsAscend fun name =>
    (holds.models name).trans (also.models name).symm
  have files := holds.filesAscend.eq_of_mem_iff also.filesAscend fun path =>
    (holds.files path).trans (also.files path).symm
  have packages := holds.packagesAscend.eq_of_mem_iff also.packagesAscend fun package =>
    (holds.packages package).trans (also.packages package).symm
  cases usage
  cases other
  cases models
  cases files
  cases packages
  rfl

theorem holds_ofModels (models : List String) : (ofModels models).Holds models [] [] where
  modelsAscend := SortedSet.ofList_ascending models
  filesAscend := List.Pairwise.nil
  packagesAscend := List.Pairwise.nil
  models := SortedSet.mem_ofList models
  files := fun _ => Iff.rfl
  packages := by simp [ofModels]

theorem Holds.withFiles {usage : Usage} {models packages : List String}
    (holds : usage.Holds models [] packages) (files : List String) :
    (usage.withFiles files).Holds models files packages :=
  { holds with
    filesAscend := holds.filesAscend.insertAll files
    files := by
      intro path
      rw [Usage.withFiles, SortedSet.mem_insertAll, holds.files]
      simp }

theorem Holds.withPackages {usage : Usage} {models files : List String}
    (holds : usage.Holds models files []) (packages : List String) :
    (usage.withPackages packages).Holds models files packages :=
  { holds with
    packagesAscend := holds.packagesAscend.insertAll _
    packages := by
      intro package
      simp [mem_withPackages, holds.packages, normalizeDir_eq_iff] }

theorem Holds.congr {usage : Usage} {models files packages : List String}
    (holds : usage.Holds models files packages) {otherModels otherFiles otherPackages : List String}
    (sameModels : ∀ name, name ∈ models ↔ name ∈ otherModels)
    (sameFiles : ∀ path, path ∈ files ↔ path ∈ otherFiles)
    (samePackages : ∀ package, package ∈ packages ↔ package ∈ otherPackages) :
    usage.Holds otherModels otherFiles otherPackages :=
  { holds with
    models := fun name => (holds.models name).trans (sameModels name)
    files := fun path => (holds.files path).trans (sameFiles path)
    packages := fun package => (holds.packages package).trans (by simp only [samePackages]) }

theorem holds_index (models files packages : List String) :
    (((ofModels (ofLists models files packages).models).withFiles
      (ofLists models files packages).files).withPackages
        (ofLists models files packages).packages).Holds models files packages := by
  refine Holds.congr (((holds_ofModels _).withFiles _).withPackages _) ?_ ?_ ?_
  all_goals exact SortedSet.mem_ofList _

theorem exists_holds_of_ofFile? {written : Written} {usage : Usage}
    (read : ofFile? written = some usage) :
    ∃ models files packages, IsForm written models files packages ∧
      usage.Holds models files packages := by
  rw [ofFile?] at read
  split at read
  · rename_i listed found
    obtain ⟨models, files, packages, form, rfl⟩ := (ofWritten?_eq_some_iff _ _).mp found
    cases read
    exact ⟨models, files, packages, Or.inl form, holds_index models files packages⟩
  · obtain ⟨models, texts, rfl⟩ := Option.map_eq_some_iff.mp read
    have form := (Written.texts?_eq_some_iff _ models).mp texts
    exact ⟨models, [], [], Or.inr ⟨form, rfl, rfl⟩, holds_ofModels models⟩

theorem ofFile?_of_holds {written : Written} {usage : Usage} {models files packages : List String}
    (form : IsForm written models files packages) (holds : usage.Holds models files packages) :
    ofFile? written = some usage := by
  rcases form with index | ⟨rfl, rfl, rfl⟩
  · rw [ofFile?, ofWritten?_of_isIndex index]
    exact congrArg some ((holds_index models files packages).unique holds)
  · cases models with
    | nil =>
        rw [← (holds_ofModels []).unique holds]
        rfl
    | cons name names =>
        rw [ofFile?, ofWritten?_ofTexts_cons, (Written.texts?_eq_some_iff _ _).mpr rfl]
        exact congrArg some ((holds_ofModels _).unique holds)

theorem ofFile?_eq_some_iff (written : Written) (usage : Usage) :
    ofFile? written = some usage ↔
      ∃ models files packages, IsForm written models files packages ∧
        usage.Holds models files packages := by
  constructor
  · exact exists_holds_of_ofFile?
  · rintro ⟨models, files, packages, form, holds⟩
    exact ofFile?_of_holds form holds

end Usage

end ReleaseDrift
