import ReleaseDrift.Proofs.Diff.History
import ReleaseDrift.Proofs.Diff.SignedLine

/-!
What a scan reports about files whose patches were put together into one diff: which files
there are, and how many lines were added and removed.
-/

namespace ReleaseDrift

open Text
open Diff (IsPlain Role rolesOf)

def hunkMarks : List (List Char) := ["@@", " ", "+", "-", "\\"].map String.toList

def ChangedFile.HasOnlyHunks (file : ChangedFile) : Prop :=
  ∀ line ∈ file.hunkLines, ∃ mark ∈ hunkMarks, mark <+: line

instance (file : ChangedFile) : Decidable file.HasOnlyHunks :=
  inferInstanceAs (Decidable (∀ line ∈ file.hunkLines, ∃ mark ∈ hunkMarks, mark <+: line))

def countMarked (mark : List Char) (files : List ChangedFile) : Nat :=
  (files.flatMap (·.hunkLines)).countP (startsWith mark)

namespace Diff

def StructuralDiff.files (diff : StructuralDiff) : List String :=
  diff.changes.map (·.path) ++ diff.unchangedFiles

/-- A scan reports the files that a diff was made of, and counts the lines that have a sign. -/
structure StructuralDiff.IsFaithful (diff : StructuralDiff) (files : List ChangedFile) : Prop where
  paths : diff.files.Perm (files.map (·.path)).eraseDups
  filesTotal : diff.stats.filesTotal = (files.map (·.path)).eraseDups.length
  linesAdded : diff.stats.linesAdded = countMarked (sign .added) files
  linesRemoved : diff.stats.linesRemoved = countMarked (sign .removed) files
  changes : ∃ reads : List ChangeLine,
    reads.map ChangeLine.source =
        (files.flatMap fun file => file.changedLines.map (Prod.mk file.path)) ∧
      diff.changes = ((files.map (·.path)).eraseDups.map fun path =>
        ModelChange.ofChanges path ((reads.filter (·.path == path)).filterMap
          ChangeLine.change?)).filter (·.hasChanges)

theorem files_perm (diff : List Char) :
    (scanText diff).files.Perm (namedPaths (rolesOf diff)) := by
  have models : ((Scan.ofHistory {} (rolesOf diff)).models).map (·.path) =
      namedPaths (rolesOf diff) := by
    rw [Scan.ofHistory, List.map_map]
    exact List.map_id _
  rw [scanText_eq_result, ← models, StructuralDiff.files, Scan.result,
    StructuralDiff.ofModels, ← List.map_append]
  exact (List.filter_append_perm _ _).map _

theorem filesTotal_eq (diff : List Char) :
    (scanText diff).stats.filesTotal = (scanText diff).files.length := by
  rw [(files_perm diff).length_eq, scanText_eq_result]
  simp only [Scan.result, StructuralDiff.ofModels, Scan.ofHistory, List.length_map]

section Assembled

variable {files : List ChangedFile}

theorem namedPaths_unifiedDiff (plain : ∀ file ∈ files, IsPlain file.path.toList) :
    (namedPaths (rolesOf (unifiedDiff files))).Perm
      (files.flatMap fun file => file.path :: file.phantoms).eraseDups := by
  rw [namedPaths, List.perm_ext_iff_of_nodup (nodup_eraseDups _) (nodup_eraseDups _)]
  intro path
  rw [roles_unifiedDiff plain, List.filterMap_flatMap]
  simp [ChangedFile.paths_roles]

theorem namedPaths_of_hasNoHeader (plain : ∀ file ∈ files, IsPlain file.path.toList)
    (noHeader : ∀ file ∈ files, file.HasNoHeader) :
    namedPaths (rolesOf (unifiedDiff files)) =
      (files.map (·.path)).eraseDups := by
  have named : ∀ file ∈ files, file.roles.filterMap Role.path? = [file.path, file.path] := by
    intro file member
    rw [file.paths_roles, (noHeader file member).phantoms]
  rw [namedPaths, roles_unifiedDiff plain, List.filterMap_flatMap, List.flatMap_congr named,
    ← eraseDups_flatMap_twice (files.map _), List.flatMap_map]

theorem countP_changeLines_roles (files : List ChangedFile) (direction : Direction) :
    (changeLines {} (files.flatMap ChangedFile.roles)).countP (·.direction = direction) =
      (files.flatMap ChangedFile.roles).countP (·.direction? = some direction) := by
  cases files with
  | nil => rfl
  | cons file files =>
      rw [List.flatMap_cons, ChangedFile.roles, List.cons_append, changeLines_cons,
        List.countP_cons_of_neg (by simp [Role.direction?])]
      exact countP_changeLines rfl _ direction

theorem countP_unifiedDiff (plain : ∀ file ∈ files, IsPlain file.path.toList)
    (direction : Direction) :
    (changeLines {} (rolesOf (unifiedDiff files))).countP
        (·.direction = direction) + countMarked (sideMark direction) files =
      countMarked (sign direction) files := by
  rw [roles_unifiedDiff plain, countP_changeLines_roles]
  clear plain
  induction files with
  | nil => rfl
  | cons file files ih =>
      have first := file.countP_patchRoles direction
      simp only [countMarked, List.flatMap_cons, List.countP_append, file.countP_roles] at ih ⊢
      omega

theorem linesAdded_unifiedDiff (plain : ∀ file ∈ files, IsPlain file.path.toList) :
    (scanText (unifiedDiff files)).stats.linesAdded + countMarked (sideMark .added) files =
      countMarked (sign .added) files := by
  rw [scanText_eq_result]
  exact countP_unifiedDiff plain .added

theorem linesRemoved_unifiedDiff (plain : ∀ file ∈ files, IsPlain file.path.toList) :
    (scanText (unifiedDiff files)).stats.linesRemoved + countMarked (sideMark .removed) files =
      countMarked (sign .removed) files := by
  rw [scanText_eq_result]
  exact countP_unifiedDiff plain .removed

theorem countMarked_eq_zero_iff (mark : List Char) (files : List ChangedFile) :
    countMarked mark files = 0 ↔ ∀ file ∈ files, ∀ line ∈ file.hunkLines, ¬ mark <+: line := by
  simp only [countMarked, List.countP_eq_zero, List.forall_mem_flatMap, startsWith_iff]

end Assembled

theorem hasNoHeader_of_hunks {file : ChangedFile} (hunks : file.HasOnlyHunks)
    (unmarked : ∀ line ∈ file.hunkLines, ¬ "+++ ".toList <+: line ∧ ¬ "--- ".toList <+: line) :
    file.HasNoHeader := by
  intro line inside
  simp only [pathMarks, List.map_cons, List.map_nil, List.forall_mem_cons]
  refine ⟨?_, (unmarked line inside).1, (unmarked line inside).2, by simp⟩
  intro start
  obtain ⟨mark, known, hunk⟩ := hunks line inside
  have apart : ∀ mark ∈ hunkMarks, ¬ mark <+: "diff --git ".toList := by decide
  have shorter : ∀ mark ∈ hunkMarks, mark.length ≤ "diff --git ".toList.length := by decide
  exact apart mark known (List.prefix_of_prefix_length_le hunk start (shorter mark known))

theorem countMarked_sideMark_eq_zero {files : List ChangedFile}
    (noHeader : ∀ file ∈ files, file.HasNoHeader) (direction : Direction) :
    countMarked (sideMark direction) files = 0 := by
  rw [countMarked_eq_zero_iff]
  exact fun file member line inside => noHeader file member line inside _ (sideMark_mem direction)

/-- Without a header in a patch every file is found again, with all its lines. -/
theorem isFaithful_of_hasNoHeader {files : List ChangedFile}
    (plain : ∀ file ∈ files, IsPlain file.path.toList)
    (noHeader : ∀ file ∈ files, file.HasNoHeader) :
    (scanText (unifiedDiff files)).IsFaithful files := by
  have named := namedPaths_of_hasNoHeader plain noHeader
  have reported : (scanText (unifiedDiff files)).files.Perm (files.map (·.path)).eraseDups :=
    named ▸ files_perm (unifiedDiff files)
  have added := linesAdded_unifiedDiff plain
  have removed := linesRemoved_unifiedDiff plain
  rw [countMarked_sideMark_eq_zero noHeader, Nat.add_zero] at added removed
  have changes : (scanText (unifiedDiff files)).changes =
      ((namedPaths (rolesOf (unifiedDiff files))).map
        (fileReading {} (rolesOf (unifiedDiff files)))).filter (·.hasChanges) :=
    changes_scanFrom .struct _
  rw [named, roles_unifiedDiff plain] at changes
  exact {
    paths := reported
    filesTotal := (filesTotal_eq _).trans reported.length_eq
    linesAdded := added
    linesRemoved := removed
    changes := ⟨_, map_source_roles noHeader {}, changes⟩ }

theorem scanText_isFaithful_iff {files : List ChangedFile}
    (plain : ∀ file ∈ files, IsPlain file.path.toList)
    (hunks : ∀ file ∈ files, file.HasOnlyHunks) :
    let diff := scanText (unifiedDiff files)
    (diff.IsFaithful files ↔ ∀ file ∈ files, ∀ line ∈ file.hunkLines,
        ¬ "+++ ".toList <+: line ∧ ¬ "--- ".toList <+: line) ∧
      diff.files.Perm (files.flatMap fun file => file.path :: file.phantoms).eraseDups ∧
      diff.stats.filesTotal = diff.files.length ∧
      diff.stats.linesAdded + countMarked (sideMark .added) files =
        countMarked (sign .added) files ∧
      diff.stats.linesRemoved + countMarked (sideMark .removed) files =
        countMarked (sign .removed) files := by
  intro diff
  have paths := (files_perm (unifiedDiff files)).trans (namedPaths_unifiedDiff plain)
  have added : diff.stats.linesAdded + countMarked (sideMark .added) files =
      countMarked (sign .added) files := linesAdded_unifiedDiff plain
  have removed : diff.stats.linesRemoved + countMarked (sideMark .removed) files =
      countMarked (sign .removed) files := linesRemoved_unifiedDiff plain
  refine ⟨⟨?_, ?_⟩, paths, filesTotal_eq _, added, removed⟩
  · intro faithful
    have noAdded : countMarked (sideMark .added) files = 0 := by
      have counted := faithful.linesAdded
      omega
    have noRemoved : countMarked (sideMark .removed) files = 0 := by
      have counted := faithful.linesRemoved
      omega
    rw [countMarked_eq_zero_iff] at noAdded noRemoved
    exact fun file member line inside =>
      ⟨noAdded file member line inside, noRemoved file member line inside⟩
  · intro unmarked
    apply isFaithful_of_hasNoHeader plain
    exact fun file member => hasNoHeader_of_hunks (hunks file member) (unmarked file member)

theorem scanText_two_files_isFaithful :
    let first : ChangedFile :=
      { path := "models/a.go", status := .modified, additions := 1, deletions := 0
        patch := some "@@ -1 +1,2 @@\n type A struct \x7b\n+    Owner *string\n" }
    let second : ChangedFile :=
      { path := "models/b.go", status := .modified, additions := 0, deletions := 1
        patch := some "@@ -3,2 +3 @@\n-    Count int" }
    (∀ file ∈ [first, second], IsPlain file.path.toList) ∧
      (∀ file ∈ [first, second], file.HasOnlyHunks) ∧
      (scanText (unifiedDiff [first, second])).IsFaithful [first, second] := by
  intro first second
  have plain : ∀ file ∈ [first, second], IsPlain file.path.toList := by decide
  have hunks : ∀ file ∈ [first, second], file.HasOnlyHunks := by decide
  exact ⟨plain, hunks, (scanText_isFaithful_iff plain hunks).1.mpr (by decide)⟩

/-- An added line that looks like a header names a file, takes the lines after it along and is
    not counted. -/
theorem added_header_not_isFaithful :
    let file : ChangedFile :=
      { path := "models/a.go", status := .modified, additions := 2, deletions := 0
        patch := some "@@ -1 +1,3 @@\n+++ b/models/b.go\n+    Owner *string\n" }
    let diff := scanText (unifiedDiff [file])
    (file.path ≠ "" ∧ IsPlain file.path.toList ∧ file.HasOnlyHunks) ∧
      diff.changes.map (·.path) = ["models/b.go"] ∧ diff.unchangedFiles = ["models/a.go"] ∧
      diff.stats.linesAdded = 1 ∧ countMarked (sign .added) [file] = 2 ∧
      ¬ diff.IsFaithful [file] := by
  intro file diff
  have added : diff.stats.linesAdded = 1 := by decide
  have signed : countMarked (sign .added) [file] = 2 := by decide
  refine ⟨by decide, by decide, by decide, added, signed, ?_⟩
  intro faithful
  have counted := faithful.linesAdded
  omega

end Diff

end ReleaseDrift
