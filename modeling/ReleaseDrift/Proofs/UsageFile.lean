import ReleaseDrift.Proofs.Json.RoundTrip
import ReleaseDrift.Proofs.UsageForm
import ReleaseDrift.Usage.Load

/-!
Usage files and back. An index that has been loaded is in order and its packages are normalized,
so that it is loaded again as it is from what it is written as.
-/

namespace ReleaseDrift

open Json (Written)

theorem SortedSet.ofList_of_ascending {set : List String} (ascending : Ascending set) :
    ofList set = set :=
  (ofList_ascending set).eq_of_mem_iff ascending (mem_ofList set)

namespace Json.Written

theorem valueItems_texts (names : List String) :
    value.valueItems (ofJson.ofItems (names.map .str)) = some (names.map .str) := by
  induction names with
  | nil => rfl
  | cons name names ih =>
      rw [List.map_cons, ofJson.ofItems, value.valueItems, ih, ofJson, value]
      rfl

theorem depthItems_texts (names : List String) :
    depth.depthItems (ofJson.ofItems (names.map .str)) = 0 := by
  induction names with
  | nil => rfl
  | cons name names ih =>
      rw [List.map_cons, ofJson.ofItems, depth.depthItems, ih, ofJson]
      rfl

end Json.Written

namespace Usage

structure IsNormal (usage : Usage) : Prop where
  models : SortedSet.Ascending usage.models
  files : SortedSet.Ascending usage.files
  packages : SortedSet.Ascending usage.packages
  normalized : ∀ package ∈ usage.packages, normalizeDir package = package

theorem isNormal_empty : IsNormal {} := by
  refine ⟨?_, ?_, ?_, ?_⟩
  · exact List.Pairwise.nil
  · exact List.Pairwise.nil
  · exact List.Pairwise.nil
  · exact List.forall_mem_nil _

theorem isNormal_ofModels (models : List String) : (ofModels models).IsNormal where
  models := SortedSet.ofList_ascending models
  files := List.Pairwise.nil
  packages := List.Pairwise.nil
  normalized := List.forall_mem_nil _

namespace IsNormal

variable {usage : Usage}

theorem withFiles (normal : usage.IsNormal) (files : List String) :
    (usage.withFiles files).IsNormal :=
  { normal with files := normal.files.insertAll files }

theorem withPackages (normal : usage.IsNormal) (packages : List String) :
    (usage.withPackages packages).IsNormal where
  models := normal.models
  files := normal.files
  packages := normal.packages.insertAll _
  normalized := by
    intro package listed
    rcases (mem_withPackages usage packages package).mp listed with ⟨written, _, rfl⟩ | listed
    · exact normalizeDir_idempotent written
    · exact normal.normalized package listed

end IsNormal

theorem isNormal_of_ofFile? {written : Written} {usage : Usage}
    (read : ofFile? written = some usage) : usage.IsNormal := by
  unfold ofFile? at read
  split at read
  · cases read
    exact ((isNormal_ofModels _).withFiles _).withPackages _
  · obtain ⟨models, _, rfl⟩ := Option.map_eq_some_iff.mp read
    exact isNormal_ofModels models

theorem fields?_toJson (usage : Usage) :
    (Written.ofJson usage.toJson).fields? [["models"], ["files"], ["packages"]] =
      some [some (.ofJson (.arr (usage.models.map .str))),
        some (.ofJson (.arr (usage.files.map .str))),
        some (.ofJson (.arr (usage.packages.map .str)))] := by
  rw [toJson, Written.fields?_ofJson]
  simp [Written.field?]

theorem IsNormal.ofWritten?_toJson {usage : Usage} (normal : usage.IsNormal) :
    ofWritten? (.ofJson usage.toJson) = some usage := by
  have fields := fields?_toJson usage
  rw [toJson, Written.ofJson_obj] at fields
  rw [toJson, Written.ofJson_obj, ofWritten?]
  simp only [List.map_cons, List.map_nil] at fields ⊢
  rw [fields]
  simp [Written.texts?_ofJson, SortedSet.ofList_of_ascending normal.models,
    SortedSet.ofList_of_ascending normal.files, SortedSet.ofList_of_ascending normal.packages]

theorem IsNormal.ofFile?_toJson {usage : Usage} (normal : usage.IsNormal) :
    ofFile? (.ofJson usage.toJson) = some usage := by
  have rebuilt : ((ofModels usage.models).withFiles usage.files).withPackages usage.packages =
      { models := SortedSet.ofList usage.models, files := SortedSet.ofList usage.files,
        packages := SortedSet.ofList (usage.packages.map normalizeDir) } := rfl
  have packages : usage.packages.map normalizeDir = usage.packages :=
    (List.map_congr_left normal.normalized).trans (List.map_id _)
  rw [ofFile?, normal.ofWritten?_toJson]
  simp only [rebuilt, packages, SortedSet.ofList_of_ascending normal.models,
    SortedSet.ofList_of_ascending normal.files, SortedSet.ofList_of_ascending normal.packages]

/-- An index is JSON for any reader: it is not nested much, and all its scalars denote values. -/
theorem json?_toJson (usage : Usage) : (Written.ofJson usage.toJson).json?.isNone = false := by
  rw [Written.json?, if_pos]
  · simp [toJson, Written.ofJson, Written.ofJson.ofMembers, Written.value,
      Written.value.valueMembers, Written.valueItems_texts]
  · simp [toJson, Written.ofJson, Written.ofJson.ofMembers, Written.depth,
      Written.depth.depthMembers, Written.depthItems_texts, Written.maxDepth]

theorem isExact_toJson (usage : Usage) : Written.IsExact usage.toJson := by
  have names : ∀ names : List String, Written.IsExact (.arr (names.map .str)) := by
    intro names
    refine .arr fun item listed => ?_
    obtain ⟨name, _, rfl⟩ := List.mem_map.mp listed
    exact .str name
  refine .obj fun member listed => ?_
  simp only [List.mem_cons, List.not_mem_nil, or_false] at listed
  rcases listed with rfl | rfl | rfl <;> exact names _

theorem IsNormal.ofText_of_toJson {usage : Usage} (normal : usage.IsNormal) {text : String}
    (parsed : Written.ofText? text.toList = some (.ofJson usage.toJson)) :
    ofText text = .ok usage := by
  rw [ofText, parsed]
  simp [json?_toJson, normal.ofFile?_toJson]

theorem isNormal_of_ofText {text : String} {usage : Usage} (loaded : ofText text = .ok usage) :
    usage.IsNormal := by
  unfold ofText at loaded
  split at loaded
  · cases loaded
  · split at loaded
    · cases loaded
    · split at loaded
      · rename_i read
        cases loaded
        exact isNormal_of_ofFile? read
      · cases loaded

theorem isNormal_of_load {files : Files} {source : Option String} {usage : Usage}
    (loaded : load files source = .ok usage) : usage.IsNormal := by
  cases source with
  | none =>
      cases loaded
      exact isNormal_empty
  | some path =>
      rw [load] at loaded
      split at loaded
      · cases loaded
      · rename_i text _
        cases read : ofText text with
        | error fault =>
            rw [read] at loaded
            cases loaded
        | ok index =>
            rw [read] at loaded
            cases loaded
            exact isNormal_of_ofText read

theorem load_of_text {files : Files} {path text : String} {usage : Usage}
    (held : (files path).text = .ok text) (read : ofText text = .ok usage) :
    load files (some path) = .ok usage := by
  simp only [load, held, read]
  rfl

/-- How the packages of an index are taken, as they are written and as it holds them. -/
structure NormalizesPackages (usage : Usage) : Prop where
  idempotent : ∀ dir, normalizeDir (normalizeDir dir) = normalizeDir dir
  asWritten : ∀ packages (raw : Usage),
    (∀ package, package ∈ raw.packages ↔ package ∈ packages ∨ package ∈ usage.packages) →
      ∀ path, (usage.withPackages packages).usesPackageOf path = raw.usesPackageOf path
  used_iff : usage.packages = [] → ∀ packages path,
    (usage.withPackages packages).usesPackageOf path = true ↔ packages = [] ∨
      ∃ package ∈ packages, ∃ dir, IsBareOf dir package ∧ ModelName.IsDirOf dir path
  accepted : ∀ written, ofFile? written = some usage ↔
    ∃ models files packages, IsForm written models files packages ∧
      usage.Holds models files packages
  again : ∀ written, ofFile? written = some usage → ofFile? (.ofJson usage.toJson) = some usage
  loadedAgain : ∀ files source, load files source = .ok usage → ∀ other path text,
    (other path).text = .ok text → Written.ofText? text.toList = some (.ofJson usage.toJson) →
      load other (some path) = .ok usage
  text : Written.ofText? usage.toJson.pretty.toList = some (.ofJson usage.toJson)

theorem normalizesPackages (usage : Usage) : usage.NormalizesPackages where
  idempotent := normalizeDir_idempotent
  asWritten := fun _ _ same path => usesPackageOf_withPackages same path
  used_iff := by
    intro none packages path
    have same : ∀ package, package ∈ packages ↔ package ∈ packages ∨ package ∈ usage.packages := by
      simp [none]
    have asWritten : (usage.withPackages packages).usesPackageOf path =
        ({ packages } : Usage).usesPackageOf path := usesPackageOf_withPackages same path
    rw [asWritten, usesPackageOf_iff_exists]
  accepted := fun written => ofFile?_eq_some_iff written usage
  again := by
    intro written read
    exact (isNormal_of_ofFile? read).ofFile?_toJson
  loadedAgain := by
    intro files source loaded other path text held parsed
    exact load_of_text held ((isNormal_of_load loaded).ofText_of_toJson parsed)
  text := Written.ofText?_pretty usage.isExact_toJson

end Usage

end ReleaseDrift
