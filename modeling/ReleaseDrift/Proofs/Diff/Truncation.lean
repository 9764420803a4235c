import ReleaseDrift.Proofs.Diff.History
import ReleaseDrift.Proofs.Text.Lines

/-!
A diff that was cut between two lines. Reading on never takes back or reorders what was read: the
files keep their places, each with more recorded at the end of its lists, and no counter falls.
The last line before the cut may be read in another way once its next line is known, but only as
the name of a file that comes after all others.
-/

namespace ReleaseDrift

open Declaration (Skip)

/-- What is recorded of a file at one time is the start of what is recorded of it later. -/
structure ModelChange.IsStartOf (earlier later : ModelChange) : Prop where
  path : later.path = earlier.path
  model : later.model = earlier.model
  fieldsAdded : earlier.fieldsAdded <+: later.fieldsAdded
  fieldsRemoved : earlier.fieldsRemoved <+: later.fieldsRemoved
  methodsAdded : earlier.methodsAdded <+: later.methodsAdded
  methodsRemoved : earlier.methodsRemoved <+: later.methodsRemoved
  embeddedAdded : earlier.embeddedAdded <+: later.embeddedAdded
  embeddedRemoved : earlier.embeddedRemoved <+: later.embeddedRemoved

namespace ModelChange

theorem isStartOf_self (model : ModelChange) : model.IsStartOf model := by
  constructor
  · rfl
  · rfl
  all_goals exact List.prefix_rfl

theorem IsStartOf.trans {model grown last : ModelChange} (first : model.IsStartOf grown)
    (second : grown.IsStartOf last) : model.IsStartOf last where
  path := second.path.trans first.path
  model := second.model.trans first.model
  fieldsAdded := first.fieldsAdded.trans second.fieldsAdded
  fieldsRemoved := first.fieldsRemoved.trans second.fieldsRemoved
  methodsAdded := first.methodsAdded.trans second.methodsAdded
  methodsRemoved := first.methodsRemoved.trans second.methodsRemoved
  embeddedAdded := first.embeddedAdded.trans second.embeddedAdded
  embeddedRemoved := first.embeddedRemoved.trans second.embeddedRemoved

theorem isStartOf_push (model : ModelChange) (change : Change) :
    model.IsStartOf (model.push change) := by
  obtain ⟨name, type, direction, line⟩ | ⟨name, parameters, returns, direction, line⟩ |
    ⟨type, direction, block, line⟩ := change <;> cases direction <;> constructor <;> simp [push]

theorem IsStartOf.total_le {model later : ModelChange} (start : model.IsStartOf later) :
    model.total ≤ later.total := by
  have fieldsAdded := start.fieldsAdded.length_le
  have fieldsRemoved := start.fieldsRemoved.length_le
  have methodsAdded := start.methodsAdded.length_le
  have methodsRemoved := start.methodsRemoved.length_le
  have embeddedAdded := start.embeddedAdded.length_le
  have embeddedRemoved := start.embeddedRemoved.length_le
  simp only [total]
  omega

theorem IsStartOf.hasChanges {model later : ModelChange} (start : model.IsStartOf later)
    (changed : model.hasChanges = true) : later.hasChanges = true := by
  have more := start.total_le
  simp only [ModelChange.hasChanges, decide_eq_true_eq] at changed ⊢
  omega

end ModelChange

structure ScanStatistics.IsAtMost (stats later : ScanStatistics) : Prop where
  linesAdded : stats.linesAdded ≤ later.linesAdded
  linesRemoved : stats.linesRemoved ≤ later.linesRemoved
  fieldsAdded : stats.fieldsAdded ≤ later.fieldsAdded
  fieldsRemoved : stats.fieldsRemoved ≤ later.fieldsRemoved
  methodsAdded : stats.methodsAdded ≤ later.methodsAdded
  methodsRemoved : stats.methodsRemoved ≤ later.methodsRemoved
  embeddedAdded : stats.embeddedAdded ≤ later.embeddedAdded
  embeddedRemoved : stats.embeddedRemoved ≤ later.embeddedRemoved
  skipped : ∀ skip, stats.skipped.count skip ≤ later.skipped.count skip

namespace ScanStatistics

theorem isAtMost_self (stats : ScanStatistics) : stats.IsAtMost stats := by
  constructor
  case skipped => exact fun skip => Nat.le_refl _
  all_goals exact Nat.le_refl _

theorem IsAtMost.trans {stats grown last : ScanStatistics} (first : stats.IsAtMost grown)
    (second : grown.IsAtMost last) : stats.IsAtMost last where
  linesAdded := Nat.le_trans first.linesAdded second.linesAdded
  linesRemoved := Nat.le_trans first.linesRemoved second.linesRemoved
  fieldsAdded := Nat.le_trans first.fieldsAdded second.fieldsAdded
  fieldsRemoved := Nat.le_trans first.fieldsRemoved second.fieldsRemoved
  methodsAdded := Nat.le_trans first.methodsAdded second.methodsAdded
  methodsRemoved := Nat.le_trans first.methodsRemoved second.methodsRemoved
  embeddedAdded := Nat.le_trans first.embeddedAdded second.embeddedAdded
  embeddedRemoved := Nat.le_trans first.embeddedRemoved second.embeddedRemoved
  skipped skip := Nat.le_trans (first.skipped skip) (second.skipped skip)

theorem isAtMost_recordLine (stats : ScanStatistics) (direction : Direction) :
    stats.IsAtMost (stats.recordLine direction) := by
  cases direction <;> constructor <;> simp [recordLine]

theorem isAtMost_recordSkip (stats : ScanStatistics) (skip : Skip) :
    stats.IsAtMost (stats.recordSkip skip) := by
  constructor
  case skipped =>
    intro other
    cases skip <;> cases other <;> simp [recordSkip, SkipCounts.record, SkipCounts.count]
  all_goals exact Nat.le_refl _

theorem isAtMost_recordChange (stats : ScanStatistics) (change : Change) :
    stats.IsAtMost (stats.recordChange change) := by
  obtain ⟨name, type, direction, line⟩ | ⟨name, parameters, returns, direction, line⟩ |
    ⟨type, direction, block, line⟩ := change <;> cases direction <;> constructor <;>
    simp [recordChange, Change.direction]

end ScanStatistics

namespace Diff

open Text

/-- The files of a scan as they stand later: each in its place, and new ones behind them. -/
inductive AreStartOf : List ModelChange → List ModelChange → Prop
  | nil (later : List ModelChange) : AreStartOf [] later
  | cons {model grown : ModelChange} {models later : List ModelChange}
      (start : model.IsStartOf grown) (rest : AreStartOf models later) :
      AreStartOf (model :: models) (grown :: later)

namespace AreStartOf

theorem refl (models : List ModelChange) : AreStartOf models models := by
  induction models with
  | nil => exact .nil []
  | cons model models ih => exact .cons model.isStartOf_self ih

theorem trans {models grown last : List ModelChange} (first : AreStartOf models grown)
    (second : AreStartOf grown last) : AreStartOf models last := by
  induction first generalizing last with
  | nil => exact .nil last
  | cons start rest ih =>
      cases second with
      | cons next others => exact .cons (start.trans next) (ih others)

theorem append (models more : List ModelChange) : AreStartOf models (models ++ more) := by
  induction models with
  | nil => exact .nil more
  | cons model models ih => exact .cons model.isStartOf_self ih

theorem map {edit : ModelChange → ModelChange}
    (grows : ∀ model : ModelChange, model.IsStartOf (edit model))
    (models : List ModelChange) : AreStartOf models (models.map edit) := by
  induction models with
  | nil => exact .nil []
  | cons model models ih => exact .cons (grows model) ih

variable {models later : List ModelChange}

theorem paths (start : AreStartOf models later) : models.map (·.path) <+: later.map (·.path) := by
  induction start with
  | nil => exact List.nil_prefix
  | cons first rest ih =>
      rw [List.map_cons, List.map_cons, first.path, List.prefix_cons_inj]
      exact ih

theorem exists_grown (start : AreStartOf models later) {model : ModelChange}
    (member : model ∈ models) : ∃ grown ∈ later, model.IsStartOf grown := by
  induction start with
  | nil => simp at member
  | cons first rest ih =>
      rcases List.mem_cons.mp member with rfl | inside
      · exact ⟨_, List.mem_cons_self, first⟩
      · obtain ⟨grown, listed, continues⟩ := ih inside
        exact ⟨grown, List.mem_cons_of_mem _ listed, continues⟩

theorem changed_sublist (start : AreStartOf models later) :
    ((models.filter (·.hasChanges)).map (·.path)).Sublist
      ((later.filter (·.hasChanges)).map (·.path)) := by
  induction start with
  | nil => exact List.nil_sublist _
  | @cons model grown models later first rest ih =>
      rw [List.filter_cons, List.filter_cons]
      by_cases changed : model.hasChanges = true
      · rw [if_pos changed, if_pos (first.hasChanges changed), List.map_cons, List.map_cons,
          first.path]
        exact ih.cons_cons _
      · rw [if_neg changed]
        split
        · exact ih.cons _
        · exact ih

end AreStartOf

namespace Scan

structure IsStartOf (scan later : Scan) : Prop where
  models : AreStartOf scan.models later.models
  stats : scan.stats.IsAtMost later.stats

theorem isStartOf_self (scan : Scan) : scan.IsStartOf scan :=
  ⟨AreStartOf.refl _, scan.stats.isAtMost_self⟩

theorem IsStartOf.trans {scan grown last : Scan} (first : scan.IsStartOf grown)
    (second : grown.IsStartOf last) : scan.IsStartOf last :=
  ⟨first.models.trans second.models, first.stats.trans second.stats⟩

theorem isStartOf_enterFile (scan : Scan) (path : String) :
    scan.IsStartOf (scan.enterFile path) := by
  refine ⟨?_, scan.stats.isAtMost_self⟩
  rw [enterFile]
  split
  · exact AreStartOf.refl _
  · exact AreStartOf.append _ _

theorem isStartOf_record (scan : Scan) (path : String) (change : Change) :
    scan.IsStartOf (scan.record path change) := by
  refine ⟨?_, scan.stats.isAtMost_recordChange change⟩
  apply AreStartOf.map
  intro model
  split
  · exact model.isStartOf_push change
  · exact model.isStartOf_self

theorem isStartOf_readChange (scan : Scan) (path : String) (direction : Direction)
    (line : List Char) (number : Nat) :
    scan.IsStartOf (scan.readChange path direction line number) := by
  have counted : scan.IsStartOf { scan with stats := scan.stats.recordLine direction } :=
    ⟨AreStartOf.refl _, scan.stats.isAtMost_recordLine direction⟩
  rw [readChange]
  split
  · exact counted.trans (isStartOf_record _ path _)
  · exact counted.trans ⟨AreStartOf.refl _, ScanStatistics.isAtMost_recordSkip _ _⟩
  · exact counted

/-- No line takes back what was read before it, whatever line comes next. -/
theorem isStartOf_step (scan : Scan) (number : Nat) (line : List Char)
    (next : Option (List Char)) : scan.IsStartOf (scan.step number line next) := by
  have moved (block : Block) : scan.IsStartOf { scan with block } :=
    ⟨AreStartOf.refl _, scan.stats.isAtMost_self⟩
  unfold step
  split
  · exact scan.isStartOf_enterFile _
  · exact scan.isStartOf_self
  · dsimp only
    split
    · exact (moved _).trans (isStartOf_readChange _ _ _ _ _)
    · exact moved _

theorem isStartOf_run (scan : Scan) (number : Nat) (lines : List (List Char)) :
    scan.IsStartOf (scan.run number lines) := by
  induction lines generalizing scan number with
  | nil => exact scan.isStartOf_self
  | cons line rest ih => exact (scan.isStartOf_step number line rest.head?).trans (ih _ _)

/-- A line is read alike with and without the line after it, unless it is the old side of a file
    that was deleted. By itself such a line is passed over. -/
theorem step_none (scan : Scan) (number : Nat) (line : List Char) (next : Option (List Char)) :
    scan.step number line none = scan.step number line next ∨ scan.step number line none = scan := by
  simp only [step, Header.ofLine?]
  cases after? "diff --git ".toList line with
  | some rest => exact Or.inl rfl
  | none =>
      cases after? "+++ ".toList line with
      | some rest => exact Or.inl rfl
      | none =>
          cases after? "--- ".toList line with
          | some rest => exact Or.inr rfl
          | none => exact Or.inl rfl

theorem step_none_isStartOf (scan : Scan) (number : Nat) (line : List Char)
    (next : Option (List Char)) :
    (scan.step number line none).IsStartOf (scan.step number line next) := by
  rcases scan.step_none number line next with same | quiet
  · rw [same]
    exact isStartOf_self _
  · rw [quiet]
    exact scan.isStartOf_step number line next

theorem run_isStartOf_run_append (scan : Scan) (number : Nat) (part rest : List (List Char)) :
    (scan.run number part).IsStartOf (scan.run number (part ++ rest)) := by
  induction part generalizing scan number with
  | nil => exact scan.isStartOf_run number rest
  | cons line part ih =>
      cases part with
      | nil =>
          have last := scan.step_none_isStartOf number line rest.head?
          exact last.trans (isStartOf_run _ _ rest)
      | cons next part => exact ih _ _

end Scan

def filesOf (lines : List (List Char)) : List ModelChange := (Scan.run {} 1 lines).models

structure StructuralDiff.ListsFiles (diff : StructuralDiff) (files : List ModelChange) : Prop where
  changes : diff.changes = files.filter (·.hasChanges)
  unchangedFiles : diff.unchangedFiles = (files.filter (!·.hasChanges)).map (·.path)
  filesTotal : diff.stats.filesTotal = files.length

theorem scanLines_eq_result (lines : List (List Char)) :
    scanLines lines = (Scan.run {} 1 lines).result := by
  rw [scanLines, Scan.finish_run, Scan.run_eq_foldl, Scan.foldl_advance_eq_ofHistory]

theorem scanLines_listsFiles (lines : List (List Char)) :
    (scanLines lines).ListsFiles (filesOf lines) := by
  rw [scanLines_eq_result]
  exact ⟨rfl, rfl, rfl⟩

structure KeepsReading (part whole : List (List Char)) : Prop where
  listed : (scanLines part).ListsFiles (filesOf part)
  listedWhole : (scanLines whole).ListsFiles (filesOf whole)
  files : AreStartOf (filesOf part) (filesOf whole)
  paths : (filesOf part).map (·.path) <+: (filesOf whole).map (·.path)
  counters : (scanLines part).stats.IsAtMost (scanLines whole).stats
  changed : ((scanLines part).changes.map (·.path)).Sublist
    ((scanLines whole).changes.map (·.path))
  changes : ∀ model ∈ (scanLines part).changes,
    ∃ grown ∈ (scanLines whole).changes, model.IsStartOf grown

theorem scanLines_append_keepsReading (part rest : List (List Char)) :
    KeepsReading part (part ++ rest) := by
  have cut := Scan.run_isStartOf_run_append {} 1 part rest
  have listed := scanLines_listsFiles part
  have listedWhole := scanLines_listsFiles (part ++ rest)
  have counters : (scanLines part).stats.IsAtMost (scanLines (part ++ rest)).stats := by
    rw [scanLines_eq_result, scanLines_eq_result]
    obtain ⟨_, stats⟩ := cut
    exact { stats with }
  refine ⟨listed, listedWhole, cut.models, cut.models.paths, counters, ?_, ?_⟩
  · rw [listed.changes, listedWhole.changes]
    exact cut.models.changed_sublist
  · rw [listed.changes, listedWhole.changes]
    intro model member
    obtain ⟨known, changed⟩ := List.mem_filter.mp member
    obtain ⟨grown, later, start⟩ := cut.models.exists_grown known
    exact ⟨grown, List.mem_filter.mpr ⟨later, start.hasChanges changed⟩, start⟩

/-- A diff that is cut between two lines loses what its last lines say and nothing else, be it
    given as lines or as a text. -/
theorem cut_keepsReading :
    (∀ part rest : List (List Char), KeepsReading part (part ++ rest)) ∧
      ∀ text tail : List Char,
        KeepsReading (lines (text ++ ['\n'])) (lines (text ++ '\n' :: tail)) ∧
          scanText (text ++ ['\n']) = scanLines (lines (text ++ ['\n'])) ∧
          scanText (text ++ '\n' :: tail) = scanLines (lines (text ++ '\n' :: tail)) := by
  refine ⟨scanLines_append_keepsReading, ?_⟩
  intro text tail
  refine ⟨?_, rfl, rfl⟩
  rw [lines_append_newline text tail]
  exact scanLines_append_keepsReading _ _

/-- The line before the cut names a file only once the line after it is known. -/
theorem cut_keepsReading_of_deleted_file :
    let part := ["+++ b/user.go".toList, "+\tName string".toList, "--- a/old.go".toList]
    let rest := ["+++ /dev/null".toList, "-\tAge int".toList, "+++ b/user.go".toList,
      "+\tRole string".toList]
    KeepsReading part (part ++ rest) ∧
      ((scanLines part).changes.map (·.path) = ["user.go"] ∧
        (scanLines (part ++ rest)).changes.map (·.path) = ["user.go", "old.go"]) ∧
      ((scanLines part).changes.flatMap (·.fieldsAdded)).map (·.line) = [some 2] ∧
      ((scanLines (part ++ rest)).changes.flatMap (·.fieldsAdded)).map (·.line) =
        [some 2, some 7] := by
  intro part rest
  exact ⟨cut_keepsReading.1 part rest, by decide +kernel, by decide +kernel, by decide +kernel⟩

end Diff

end ReleaseDrift
