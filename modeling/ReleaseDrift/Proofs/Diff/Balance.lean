import Mathlib.Algebra.GroupWithZero.Nat
import ReleaseDrift.Proofs.Diff.Attribution
import ReleaseDrift.Proofs.Grouping

/-!
The counters of a scan add up. Every changed line is a change, skipped or blank, and every change
stands in one list of one file.
-/

namespace ReleaseDrift

open Declaration (Outcome Skip)
open Diff (ChangeLine Role changeLines changesOf fileReading namedPaths rolesOf)

theorem Declaration.read_eq_blank_iff (line : List Char) (direction : Direction) (block : Block)
    (number : Nat) : read line direction block number = .blank ↔ line = [] := by
  constructor
  · intro blank
    by_cases empty : line = []
    · exact empty
    · simp only [read, beq_iff_eq, empty, if_false] at blank
      grind
  · rintro rfl
    rfl

theorem SkipCounts.total_ofSkips (skips : List Skip) :
    (ofSkips skips).total = skips.length := by
  induction skips with
  | nil => rfl
  | cons skip skips ih =>
      simp only [total, ofSkips, List.count_cons, List.length_cons] at ih ⊢
      cases skip <;> simp <;> omega

theorem ModelChange.total_push (model : ModelChange) (change : Change) :
    (model.push change).total = model.total + 1 := by
  obtain ⟨name, type, direction, line⟩ | ⟨name, parameters, returns, direction, line⟩ |
    ⟨type, direction, block, line⟩ := change <;> cases direction <;>
    simp only [push, total, List.length_append, List.length_singleton] <;> omega

theorem ModelChange.total_ofChanges (path : String) (changes : List Change) :
    (ofChanges path changes).total = changes.length := by
  induction changes using List.reverseRecOn with
  | nil => rfl
  | append_singleton changes change ih =>
      rw [← push_ofChanges, total_push, ih, List.length_append, List.length_singleton]

namespace ScanStatistics

theorem linesProcessed_ofLines (lines : List ChangeLine) :
    (ofLines lines).linesProcessed = lines.length := by
  simp only [linesProcessed, ofLines]
  induction lines with
  | nil => rfl
  | cons line lines ih =>
      rw [List.countP_cons, List.countP_cons, List.length_cons, ← ih]
      cases line.direction <;> simp <;> omega

theorem totalChanges_ofLines (lines : List ChangeLine) :
    (ofLines lines).totalChanges = (lines.filterMap ChangeLine.change?).length :=
  ModelChange.total_ofChanges "" _

end ScanStatistics

namespace Diff

theorem length_eq_change_add_skip_add_blank (lines : List ChangeLine) :
    lines.length = (lines.filterMap ChangeLine.change?).length +
      (lines.filterMap ChangeLine.skip?).length + lines.countP (·.text = []) := by
  induction lines with
  | nil => rfl
  | cons line lines ih =>
      have blank : line.outcome = .blank ↔ line.text = [] := Declaration.read_eq_blank_iff _ _ _ _
      rw [List.length_cons, List.countP_cons, ih]
      cases outcome : line.outcome <;>
        simp_all [ChangeLine.change?, ChangeLine.skip?] <;> omega

theorem path_mem_namedPaths {history : List Role} {line : ChangeLine}
    (member : line ∈ changeLines {} history) : line.path ∈ namedPaths history := by
  rcases path_of_mem_changeLines member with file | named
  · contradiction
  · exact List.mem_eraseDups.mpr named

/-- The entries of all files are those of the changed lines, whichever of the six lists is
    looked at. -/
theorem flatMap_changes_perm (diff : List Char) {Entry : Type} {entries : ModelChange → List Entry}
    {pick? : Change → Option Entry}
    (selects : ∀ path changes, entries (.ofChanges path changes) = changes.filterMap pick?) :
    ((scanText diff).changes.flatMap entries).Perm
      (((changeLines {} (rolesOf diff)).filterMap ChangeLine.change?).filterMap pick?) := by
  have changes : (scanText diff).changes = ((namedPaths (rolesOf diff)).map
      (fileReading {} (rolesOf diff))).filter (·.hasChanges) := changes_scanFrom .struct diff
  have silent : ∀ model ∈ (namedPaths (rolesOf diff)).map (fileReading {} (rolesOf diff)),
      model.hasChanges = false → entries model = [] := by
    intro model member unchanged
    obtain ⟨path, _, rfl⟩ := List.mem_map.mp member
    have none : (changesOf {} (rolesOf diff) path).length = 0 := by
      rw [← ModelChange.total_ofChanges path]
      simpa [ModelChange.hasChanges, fileReading] using unchanged
    rw [fileReading, selects, List.eq_nil_of_length_eq_zero none, List.filterMap_nil]
  have files : ((scanText diff).changes.flatMap entries) =
      (((namedPaths (rolesOf diff)).flatMap fun path =>
        (changeLines {} (rolesOf diff)).filter (·.path == path)).filterMap
          ChangeLine.change?).filterMap pick? := by
    rw [changes, flatMap_filter_of_silent _ silent, List.flatMap_map, List.filterMap_flatMap,
      List.filterMap_flatMap]
    exact List.flatMap_congr fun path _ => selects path _
  rw [files]
  have named : ∀ line ∈ changeLines {} (rolesOf diff), line.path ∈ namedPaths (rolesOf diff) :=
    fun _ => path_mem_namedPaths
  have lines := groups_perm ChangeLine.path (nodup_eraseDups _) named
  exact (lines.filterMap _).filterMap _

theorem sum_length_changes (diff : List Char) {Entry : Type} (entries : ModelChange → List Entry)
    (pick? : Change → Option Entry)
    (selects : ∀ path changes, entries (.ofChanges path changes) = changes.filterMap pick?) :
    ((scanText diff).changes.map fun model => (entries model).length).sum =
      (((changeLines {} (rolesOf diff)).filterMap ChangeLine.change?).filterMap pick?).length := by
  rw [← (flatMap_changes_perm diff selects).length_eq, List.length_flatMap]

def blankLines (diff : List Char) : Nat :=
  (changeLines {} (rolesOf diff)).countP (·.text = [])

/-- What the counters of a scan owe to the lines it read and to the lists it returns. -/
structure StructuralDiff.IsBalanced (diff : StructuralDiff) (blank : Nat) : Prop where
  lines : diff.stats.linesAdded + diff.stats.linesRemoved =
    diff.stats.totalChanges + diff.stats.skipped.total + blank
  fieldsAdded : diff.stats.fieldsAdded = (diff.changes.map (·.fieldsAdded.length)).sum
  fieldsRemoved : diff.stats.fieldsRemoved = (diff.changes.map (·.fieldsRemoved.length)).sum
  methodsAdded : diff.stats.methodsAdded = (diff.changes.map (·.methodsAdded.length)).sum
  methodsRemoved : diff.stats.methodsRemoved = (diff.changes.map (·.methodsRemoved.length)).sum
  embeddedAdded : diff.stats.embeddedAdded = (diff.changes.map (·.embeddedAdded.length)).sum
  embeddedRemoved : diff.stats.embeddedRemoved = (diff.changes.map (·.embeddedRemoved.length)).sum
  directed : ∀ model ∈ diff.changes, model.Directed
  filesTotal : diff.stats.filesTotal =
    diff.stats.filesWithChanges + diff.stats.filesWithoutChanges
  filesWithChanges : diff.stats.filesWithChanges = diff.changes.length
  filesWithoutChanges : diff.stats.filesWithoutChanges = diff.unchangedFiles.length
  filled : ∀ model ∈ diff.changes, model.changes ≠ []
  distinct : (diff.changes.map (·.path)).Nodup
  distinctUnchanged : diff.unchangedFiles.Nodup
  disjoint : ∀ model ∈ diff.changes, model.path ∉ diff.unchangedFiles
  examples : diff.stats.unchangedExamples <+: diff.unchangedFiles
  examplesLength : diff.stats.unchangedExamples.length = min 5 diff.unchangedFiles.length

theorem lines_add_eq (diff : List Char) :
    (scanText diff).stats.linesAdded + (scanText diff).stats.linesRemoved =
      (scanText diff).stats.totalChanges + (scanText diff).stats.skipped.total +
        blankLines diff := by
  have processed := ScanStatistics.linesProcessed_ofLines (changeLines {} (rolesOf diff))
  have changed := ScanStatistics.totalChanges_ofLines (changeLines {} (rolesOf diff))
  have skipped := SkipCounts.total_ofSkips
    ((changeLines {} (rolesOf diff)).filterMap ChangeLine.skip?)
  have balance := length_eq_change_add_skip_add_blank (changeLines {} (rolesOf diff))
  rw [← processed, ← changed, ← skipped] at balance
  rw [scanText_eq_result]
  exact balance

theorem nodup_files (diff : List Char) : (scanText diff).files.Nodup :=
  (files_perm diff).nodup_iff.mpr (nodup_eraseDups _)

theorem filled_of_mem_changes {diff : List Char} {model : ModelChange}
    (member : model ∈ (scanText diff).changes) : model.changes ≠ [] := by
  rw [scanText_eq_result] at member
  have changed := (List.mem_filter.mp member).2
  intro empty
  simp [ModelChange.changes] at empty
  simp [ModelChange.hasChanges, ModelChange.total, empty] at changed

/-- Whatever the diff, no changed line is lost between its counter and the lists. -/
theorem scanText_isBalanced (diff : List Char) :
    (scanText diff).IsBalanced (blankLines diff) := by
  have result := scanText_eq_result diff
  have files := filesTotal_eq diff
  obtain ⟨withChanges, withoutChanges, examples⟩ := counted_files diff
  have distinct := nodup_files diff
  rw [StructuralDiff.files, List.length_append, List.length_map] at files
  rw [StructuralDiff.files, List.nodup_append] at distinct
  obtain ⟨distinctChanges, distinctUnchanged, apart⟩ := distinct
  exact {
    lines := lines_add_eq diff
    fieldsAdded := (congrArg (·.stats.fieldsAdded) result).trans
      (sum_length_changes diff (·.fieldsAdded) (Change.field? .added) fun _ _ => rfl).symm
    fieldsRemoved := (congrArg (·.stats.fieldsRemoved) result).trans
      (sum_length_changes diff (·.fieldsRemoved) (Change.field? .removed) fun _ _ => rfl).symm
    methodsAdded := (congrArg (·.stats.methodsAdded) result).trans
      (sum_length_changes diff (·.methodsAdded) (Change.method? .added) fun _ _ => rfl).symm
    methodsRemoved := (congrArg (·.stats.methodsRemoved) result).trans
      (sum_length_changes diff (·.methodsRemoved) (Change.method? .removed) fun _ _ => rfl).symm
    embeddedAdded := (congrArg (·.stats.embeddedAdded) result).trans
      (sum_length_changes diff (·.embeddedAdded) (Change.embedded? .added) fun _ _ => rfl).symm
    embeddedRemoved := (congrArg (·.stats.embeddedRemoved) result).trans
      (sum_length_changes diff (·.embeddedRemoved) (Change.embedded? .removed) fun _ _ => rfl).symm
    directed := fun model member => by
      obtain ⟨path, changes, rfl⟩ := exists_ofChanges_of_mem_changes member
      exact ModelChange.ofChanges_directed path changes
    filesTotal := by rw [files, withChanges, withoutChanges]
    filesWithChanges := withChanges
    filesWithoutChanges := withoutChanges
    filled := fun _ => filled_of_mem_changes
    distinct := distinctChanges
    distinctUnchanged
    disjoint := fun model member unchanged =>
      apart model.path (List.mem_map_of_mem member) model.path unchanged rfl
    examples := examples ▸ List.take_prefix _ _
    examplesLength := examples ▸ List.length_take }

end Diff

end ReleaseDrift
