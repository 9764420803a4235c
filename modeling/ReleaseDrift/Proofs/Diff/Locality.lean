import ReleaseDrift.Proofs.Declaration.Reading
import ReleaseDrift.Proofs.Diff.History
import ReleaseDrift.Proofs.Diff.SignedLine

/-!
What a scan records for one file of a diff. The other files of the diff count only for the block
that the lines before the file end in.
-/

namespace ReleaseDrift

open Text
open Diff (IsPlain Place Role)

/-- Files with different paths, and patches that hold no header. -/
structure AreSeparate (files : List ChangedFile) : Prop where
  distinct : (files.map (·.path)).Nodup
  plain : ∀ file ∈ files, IsPlain file.path.toList
  noHeader : ∀ file ∈ files, file.HasNoHeader

instance (files : List ChangedFile) : Decidable (AreSeparate files) :=
  decidable_of_iff ((files.map (·.path)).Nodup ∧ (∀ file ∈ files, IsPlain file.path.toList) ∧
      ∀ file ∈ files, file.HasNoHeader)
    ⟨fun separate => ⟨separate.1, separate.2.1, separate.2.2⟩,
      fun separate => ⟨separate.distinct, separate.plain, separate.noHeader⟩⟩

theorem AreSeparate.append_singleton {files : List ChangedFile} {file : ChangedFile}
    (separate : AreSeparate files) (plain : IsPlain file.path.toList)
    (noHeader : file.HasNoHeader) (fresh : file.path ∉ files.map (·.path)) :
    AreSeparate (files ++ [file]) where
  distinct := by
    rw [List.map_append, List.map_singleton, List.nodup_append]
    refine ⟨separate.distinct, by simp, ?_⟩
    intro path member other isFile same
    rw [List.mem_singleton.mp isFile] at same
    exact fresh (same ▸ member)
  plain := by
    rw [List.forall_mem_append, List.forall_mem_singleton]
    exact ⟨separate.plain, plain⟩
  noHeader := by
    rw [List.forall_mem_append, List.forall_mem_singleton]
    exact ⟨separate.noHeader, noHeader⟩

def blockAfter (files : List ChangedFile) : Block :=
  (({} : Place).after (files.flatMap ChangedFile.patchRoles)).block

namespace Diff

def StructuralDiff.recordedFor (diff : StructuralDiff) (path : String) : Option ModelChange :=
  (diff.changes.find? (·.path == path)).map (·.withoutLines)

namespace ChangeLine

def withoutNumber (line : ChangeLine) : ChangeLine := { line with number := 0 }

theorem change?_withoutNumber (line : ChangeLine) :
    line.withoutNumber.change?.map Change.withoutLine = line.change?.map Change.withoutLine := by
  simp only [change?, outcome, withoutNumber]
  rw [Declaration.read_eq_relabel, Declaration.read_eq_relabel line.text line.direction line.block
    line.number]
  cases Declaration.read line.text .added line.block 0 with
  | change declared => cases declared <;> rfl
  | skipped skip => rfl
  | blank => rfl

end ChangeLine

theorem map_withoutNumber_changeLines {place other : Place} (file : place.file = other.file)
    (block : place.block = other.block) (history : List Role) :
    (changeLines place history).map ChangeLine.withoutNumber =
      (changeLines other history).map ChangeLine.withoutNumber := by
  induction history generalizing place other with
  | nil => rfl
  | cons role history ih =>
      have sameFile : (place.after [role]).file = (other.after [role]).file := by
        rw [Place.after_singleton_file, Place.after_singleton_file, file]
      have sameBlock : (place.after [role]).block = (other.after [role]).block := by
        rw [Place.after_singleton_block, Place.after_singleton_block, block]
      rw [changeLines_cons, changeLines_cons, List.map_append, List.map_append,
        ih sameFile sameBlock]
      congr 1
      match role with
      | .names _ | .header | .text none _ => rfl
      | .text (some direction) text =>
          cases named : other.file with
          | none => simp [Place.changeLine?, file, named]
          | some path =>
              simp [Place.changeLine?, file, named, ChangeLine.withoutNumber, sameBlock]

theorem map_withoutLine_changesOf (place : Place) (history : List Role) (path : String) :
    (changesOf place history path).map Change.withoutLine =
      (((changeLines place history).map ChangeLine.withoutNumber).filter
        (·.path == path)).filterMap fun line => line.change?.map Change.withoutLine := by
  rw [changesOf, List.map_filterMap, List.filter_map, List.filterMap_map]
  apply List.filterMap_congr
  intro line _
  exact (ChangeLine.change?_withoutNumber line).symm

theorem recordedFor_scanFrom (block : Block) (diff : List Char) (path : String) :
    let model := fileReading { block } (rolesOf diff) path
    (scanFrom block diff).recordedFor path =
      if model.hasChanges then some model.withoutLines else none := by
  intro model
  rw [StructuralDiff.recordedFor, changes_scanFrom]
  cases found : List.find? _ (List.filter _ _) with
  | none =>
      rw [List.find?_eq_none] at found
      rw [if_neg]
      · rfl
      · intro changed
        have named : path ∈ namedPaths (rolesOf diff) := by
          by_contra unnamed
          have start : ({ block } : Place).file = none := rfl
          have nothing := changesOf_eq_nil start unnamed
          simp [model, fileReading, nothing, ModelChange.hasChanges, ModelChange.total,
            ModelChange.ofChanges] at changed
        exact found model (List.mem_filter.mpr ⟨List.mem_map_of_mem named, changed⟩)
          (by simp [model])
  | some recorded =>
      obtain ⟨listed, changed⟩ := List.mem_filter.mp (List.mem_of_find?_eq_some found)
      have same := List.find?_some found
      obtain ⟨name, _, rfl⟩ := List.mem_map.mp listed
      obtain rfl : name = path := by simpa using same
      rw [if_pos changed]
      rfl

theorem recordedFor_congr {block other : Block} {diff alone : List Char} {path : String}
    (same : (changesOf { block } (rolesOf diff) path).map Change.withoutLine =
      (changesOf { block := other } (rolesOf alone) path).map Change.withoutLine) :
    (scanFrom block diff).recordedFor path = (scanFrom other alone).recordedFor path := by
  rw [recordedFor_scanFrom, recordedFor_scanFrom]
  have models : (fileReading { block } (rolesOf diff) path).withoutLines =
      (fileReading { block := other } (rolesOf alone) path).withoutLines := by
    rw [fileReading, fileReading, ModelChange.withoutLines_ofChanges,
      ModelChange.withoutLines_ofChanges, same]
  rw [← ModelChange.hasChanges_withoutLines, models, ModelChange.hasChanges_withoutLines]

theorem filter_changeLines_eq_nil {files : List ChangedFile} {path : String}
    (noHeader : ∀ file ∈ files, file.HasNoHeader) (apart : path ∉ files.map (·.path))
    (place : Place) :
    (changeLines place (files.flatMap ChangedFile.roles)).filter (·.path == path) = [] := by
  rw [List.filter_eq_nil_iff]
  intro line member same
  have source := List.mem_map_of_mem (f := ChangeLine.source) member
  rw [map_source_roles noHeader place, List.mem_flatMap] at source
  obtain ⟨file, given, listed⟩ := source
  obtain ⟨_, _, equal⟩ := List.mem_map.mp listed
  apply apart
  rw [← eq_of_beq same, List.mem_map]
  exact ⟨file, given, congrArg Prod.fst equal⟩

theorem block_after_roles (files : List ChangedFile) (place : Place) :
    (place.after (files.flatMap ChangedFile.roles)).block =
      (place.after (files.flatMap ChangedFile.patchRoles)).block := by
  have silent (file : ChangedFile) :
      file.roles.filterMap Role.block? = file.patchRoles.filterMap Role.block? := rfl
  simp only [Place.after, List.filterMap_flatMap, silent]

theorem map_withoutNumber_roles {place other : Place} (block : place.block = other.block)
    (file : ChangedFile) :
    (changeLines place file.roles).map ChangeLine.withoutNumber =
      (changeLines other file.roles).map ChangeLine.withoutNumber := by
  have sameFile : (place.after [.names file.path]).file = (other.after [.names file.path]).file :=
    rfl
  have sameBlock : (place.after [.names file.path]).block =
      (other.after [.names file.path]).block := block
  rw [ChangedFile.roles, changeLines_cons, changeLines_cons other]
  exact map_withoutNumber_changeLines sameFile sameBlock _

theorem changesOf_unifiedDiff {before after : List ChangedFile} {file : ChangedFile}
    (separate : AreSeparate (before ++ file :: after)) :
    (changesOf {} ((before ++ file :: after).flatMap ChangedFile.roles) file.path).map
        Change.withoutLine =
      (changesOf { block := blockAfter before } ([file].flatMap ChangedFile.roles) file.path).map
        Change.withoutLine := by
  have noHeader := separate.noHeader
  have distinct := separate.distinct
  rw [List.forall_mem_append, List.forall_mem_cons] at noHeader
  rw [List.map_append, List.map_cons, List.nodup_append, List.nodup_cons] at distinct
  obtain ⟨noneBefore, _, noneAfter⟩ := noHeader
  obtain ⟨_, ⟨notAfter, _⟩, different⟩ := distinct
  have notBefore : file.path ∉ before.map (·.path) := fun member =>
    different _ member _ List.mem_cons_self rfl
  have joined : (before ++ file :: after).flatMap ChangedFile.roles =
      before.flatMap ChangedFile.roles ++ (file.roles ++ after.flatMap ChangedFile.roles) := by
    rw [List.flatMap_append, List.flatMap_cons]
  have alone : [file].flatMap ChangedFile.roles = file.roles := by simp
  have block : (({} : Place).after (before.flatMap ChangedFile.roles)).block =
      ({ block := blockAfter before } : Place).block := block_after_roles before {}
  have own : (changeLines (({} : Place).after (before.flatMap ChangedFile.roles)) file.roles).map
        ChangeLine.withoutNumber =
      (changeLines { block := blockAfter before } file.roles).map ChangeLine.withoutNumber :=
    map_withoutNumber_roles block file
  rw [joined, alone, map_withoutLine_changesOf, map_withoutLine_changesOf, changeLines_append,
    changeLines_append, List.map_append, List.map_append, own]
  have unnumbered : (fun line : ChangeLine => line.path == file.path) ∘ ChangeLine.withoutNumber =
      fun line => line.path == file.path := rfl
  -- The lines of the other files stand under other paths.
  simp only [List.filter_append, List.filter_map, unnumbered,
    filter_changeLines_eq_nil noneBefore notBefore, filter_changeLines_eq_nil noneAfter notAfter,
    List.map_nil, List.nil_append, List.append_nil]

theorem recordedFor_eq_scanFrom {before after : List ChangedFile} {file : ChangedFile}
    (separate : AreSeparate (before ++ file :: after)) :
    (scanText (unifiedDiff (before ++ file :: after))).recordedFor file.path =
      (scanFrom (blockAfter before) (unifiedDiff [file])).recordedFor file.path := by
  have plainFile : ∀ other ∈ [file], IsPlain other.path.toList := by
    simpa using separate.plain file (by simp)
  have whole : scanText (unifiedDiff (before ++ file :: after)) =
      scanFrom .struct (unifiedDiff (before ++ file :: after)) := rfl
  rw [whole]
  apply recordedFor_congr
  rw [roles_unifiedDiff separate.plain, roles_unifiedDiff plainFile]
  exact changesOf_unifiedDiff separate

theorem exists_length_lt (paths : List String) :
    ∃ bound, ∀ path ∈ paths, path.toList.length < bound := by
  induction paths with
  | nil => exact ⟨0, by simp⟩
  | cons path paths ih =>
      obtain ⟨bound, below⟩ := ih
      refine ⟨max bound (path.toList.length + 1), ?_⟩
      rw [List.forall_mem_cons]
      exact ⟨by omega, fun other member => by have := below other member; omega⟩

theorem exists_fresh_path (paths : List String) :
    ∃ path : String, IsPlain path.toList ∧ path ∉ paths := by
  obtain ⟨bound, below⟩ := exists_length_lt paths
  refine ⟨String.ofList (List.replicate bound 'a'), ?_, ?_⟩
  · rw [String.toList_ofList]
    refine ⟨by simp, by simp, ?_⟩
    intro c last
    rw [List.eq_of_mem_replicate (List.mem_of_getLast? last)]
    rfl
  · intro member
    have short := below _ member
    rw [String.toList_ofList, List.length_replicate] at short
    omega

def fieldRemoval (path : String) : ChangedFile :=
  { path, status := .modified, additions := 0, deletions := 1, patch := some "-Owner *string" }

theorem changeLines_fieldRemoval (path : String) (block : Block) :
    changeLines { block } (fieldRemoval path).roles =
      [{ path, direction := .removed, block, text := "Owner *string".toList, number := 4 }] := by
  cases block <;> rfl

theorem roles_fieldRemoval {path : String} (plain : IsPlain path.toList) :
    rolesOf (unifiedDiff [fieldRemoval path]) = (fieldRemoval path).roles := by
  rw [roles_unifiedDiff (by simpa [fieldRemoval] using plain)]
  simp

theorem hasNoHeader_fieldRemoval (path : String) : (fieldRemoval path).HasNoHeader := by
  have unmarked : ∀ line ∈ lines "-Owner *string".toList, ∀ mark ∈ pathMarks, ¬ mark <+: line := by
    decide
  exact unmarked

theorem recordedFor_fieldRemoval {path : String} (plain : IsPlain path.toList) :
    (scanFrom .interface (unifiedDiff [fieldRemoval path])).recordedFor path ≠
      (scanFrom .struct (unifiedDiff [fieldRemoval path])).recordedFor path := by
  have inInterface : changesOf { block := .interface } (fieldRemoval path).roles path = [] := by
    rw [changesOf, changeLines_fieldRemoval, List.filter_cons_of_pos (by simp)]
    rfl
  have inStruct : changesOf { block := .struct } (fieldRemoval path).roles path =
      [.field ⟨"Owner", "*string", .removed, some 4⟩] := by
    rw [changesOf, changeLines_fieldRemoval, List.filter_cons_of_pos (by simp)]
    rfl
  rw [recordedFor_scanFrom, recordedFor_scanFrom, roles_fieldRemoval plain, fileReading,
    fileReading, inInterface, inStruct]
  simp [ModelChange.ofChanges, ModelChange.hasChanges, ModelChange.total, Change.field?,
    Change.method?, Change.embedded?]

/-- What is recorded for a file depends on the files before it by the block they end in, and by
    nothing else: it is independent of them exactly when that block is no interface. -/
theorem recordedFor_unifiedDiff {before : List ChangedFile} (separate : AreSeparate before) :
    (∀ file after, AreSeparate (before ++ file :: after) →
      (scanText (unifiedDiff (before ++ file :: after))).recordedFor file.path =
        (scanFrom (blockAfter before) (unifiedDiff [file])).recordedFor file.path) ∧
    ((∀ file after, AreSeparate (before ++ file :: after) →
      (scanText (unifiedDiff (before ++ file :: after))).recordedFor file.path =
        (scanText (unifiedDiff [file])).recordedFor file.path) ↔
      blockAfter before = .struct) := by
  refine ⟨fun file after whole => recordedFor_eq_scanFrom whole, ?_, ?_⟩
  · intro isLocal
    cases block : blockAfter before with
    | struct => rfl
    | interface =>
        -- A file that the open interface changes: its field is no method.
        obtain ⟨path, plain, fresh⟩ := exists_fresh_path (before.map (·.path))
        have joined : AreSeparate (before ++ [fieldRemoval path]) :=
          separate.append_singleton plain (hasNoHeader_fieldRemoval path) fresh
        have alone := recordedFor_eq_scanFrom joined
        rw [block, isLocal _ _ joined] at alone
        exact absurd alone.symm (recordedFor_fieldRemoval plain)
  · intro block file after whole
    rw [recordedFor_eq_scanFrom whole, block]
    rfl

theorem recordedFor_after_closed_interface :
    let first : ChangedFile :=
      { path := "models/a.go", status := .modified, additions := 1, deletions := 0
        patch := some "@@ -1,2 +1,3 @@\n type A interface \x7b\n+    GetName() string\n \x7d\n" }
    let second : ChangedFile :=
      { path := "models/b.go", status := .modified, additions := 0, deletions := 1
        patch := some "@@ -4,3 +4,2 @@\n-    Owner *string\n" }
    AreSeparate [first] ∧ blockAfter [first] = .struct ∧ AreSeparate [first, second] ∧
      (scanText (unifiedDiff [first, second])).recordedFor second.path =
        (scanText (unifiedDiff [second])).recordedFor second.path := by
  intro first second
  have separate : AreSeparate [first] := by decide
  have closed : blockAfter [first] = .struct := by decide
  have both : AreSeparate ([first] ++ second :: []) := by decide
  exact ⟨separate, closed, both, (recordedFor_unifiedDiff separate).2.mpr closed second [] both⟩

/-- An interface whose end is not shown takes the fields of the next file for something else. -/
theorem recordedFor_after_open_interface :
    let first : ChangedFile :=
      { path := "models/a.go", status := .modified, additions := 0, deletions := 0
        patch := some "@@ -1,2 +1,2 @@\n type Aable interface \x7b\n" }
    let second : ChangedFile :=
      { path := "models/b.go", status := .modified, additions := 0, deletions := 1
        patch := some "@@ -4,3 +4,2 @@\n-    Owner *string\n" }
    AreSeparate [first, second] ∧
      (scanText (unifiedDiff [first, second])).recordedFor second.path = none ∧
      (scanText (unifiedDiff [second])).recordedFor second.path =
        some { ModelChange.ofPath "models/b.go" with
          fieldsRemoved := [⟨"Owner", "*string", .removed, none⟩] } := by
  decide

end Diff

end ReleaseDrift
