import Mathlib.Data.List.Forall2
import ReleaseDrift.Proofs.Report.Groups
import ReleaseDrift.Proofs.Verdict

/-!
What an analysis gives account of. Every changed file is listed once, every changed model is used
or counted as unused, and each item stems from one origin about a model that is used.
-/

namespace ReleaseDrift

instance (usage : Usage) (model path : String) : Decidable (usage.Covers model path) :=
  inferInstanceAs (Decidable (_ ∨ _))

inductive Origin where
  | declaration (model : ModelChange) (change : Change)
  | enum (change : EnumChange)
  | removal (path : String)

namespace Origin

def path : Origin → String
  | declaration model _ => model.path
  | enum change => change.path
  | removal path => path

def model : Origin → String
  | declaration model _ => model.model
  | enum change => change.model
  | removal path => ModelName.ofPath path

def name : Origin → String
  | declaration _ change => change.name
  | enum change => change.model
  | removal path => ModelName.ofPath path

def kind : Origin → ItemKind
  | declaration _ change => change.kind
  | enum _ => .enum
  | removal _ => .model

def level : Origin → Level
  | declaration _ change =>
      match change.direction with
      | .removed => .critical
      | .added => .opportunity
  | enum change => if change.removed = [] then .enumAdded else .enumRemoved
  | removal _ => .critical

structure Yields (origin : Origin) (item : ClassifiedItem) : Prop where
  model : item.model = origin.model
  name : item.name = origin.name
  kind : item.kind = origin.kind
  level : item.level = origin.level

theorem yields_declaration (model : ModelChange) (change : Change) :
    (declaration model change).Yields (change.classify model.model) where
  model := rfl
  name := rfl
  kind := rfl
  level := by
    rw [level, Change.classify]
    cases change.direction <;> rfl

theorem yields_enum {change : EnumChange} (filled : ¬ (change.added = [] ∧ change.removed = [])) :
    ∃ item, change.classify? = some item ∧ (enum change).Yields item := by
  have found : change.level? = some (enum change).level := by
    rw [EnumChange.level?, level]
    by_cases removed : change.removed = []
    · have added : change.added ≠ [] := fun empty => filled ⟨empty, removed⟩
      simp [removed, added]
    · simp [removed]
  rw [EnumChange.classify?, found]
  exact ⟨_, rfl, ⟨rfl, rfl, rfl, rfl⟩⟩

theorem yields_removal {usage : Usage} {path : String}
    (covered : usage.Covers (ModelName.ofPath path) path) :
    ∃ item, removedModelItem? usage path = some item ∧ (removal path).Yields item := by
  rw [removedModelItem?, if_pos ((usage.relevant_iff _ _).mpr covered)]
  exact ⟨_, rfl, ⟨rfl, rfl, rfl, rfl⟩⟩

end Origin

theorem forall₂_filterMap {Entry Item : Type} {relates : Entry → Item → Prop}
    {item? : Entry → Option Item} {entries : List Entry}
    (some : ∀ entry ∈ entries, ∃ item, item? entry = some item ∧ relates entry item) :
    List.Forall₂ relates entries (entries.filterMap item?) := by
  induction entries with
  | nil => exact .nil
  | cons entry entries ih =>
      obtain ⟨⟨item, found, related⟩, rest⟩ := List.forall_mem_cons.mp some
      rw [List.filterMap_cons_some found]
      exact .cons related (ih rest)

namespace Analysis

def origins (analysis : Analysis) (usage : Usage) : List Origin :=
  (analysis.modelChanges.flatMap fun model => model.changes.map (.declaration model)) ++
    analysis.enumChanges.map .enum ++
    (analysis.removedModels.filter fun path => usage.Covers (ModelName.ofPath path) path).map
      .removal

end Analysis

section Analyze

variable (config : Config) (usage : Usage) (comparison : Comparison)

theorem filled_of_mem_enumChanges {change : EnumChange}
    (member : change ∈ (config.analyze usage comparison).enumChanges) :
    ¬ (change.added = [] ∧ change.removed = []) ∧ change.model = ModelName.ofPath change.path := by
  obtain ⟨file, _, found⟩ := List.mem_filterMap.mp (List.mem_filter.mp member).1
  obtain ⟨patch, _, rfl, filled⟩ := (EnumChange.ofFile?_eq_some_iff file change).mp found
  exact ⟨filled, rfl⟩

theorem origins_yield_items :
    List.Forall₂ Origin.Yields ((config.analyze usage comparison).origins usage)
      (config.analyze usage comparison).report.items := by
  have declared : List.Forall₂ Origin.Yields
      ((config.analyze usage comparison).modelChanges.flatMap fun model =>
        model.changes.map (.declaration model))
      ((config.analyze usage comparison).modelChanges.flatMap (·.classify)) := by
    have same := List.forall₂_same.mpr fun model (_ : model ∈
      (config.analyze usage comparison).modelChanges) => Eq.refl model
    refine List.rel_flatMap same ?_
    rintro model _ rfl
    simp only [ModelChange.classify, List.forall₂_map_left_iff, List.forall₂_map_right_iff,
      List.forall₂_same]
    exact fun change _ => Origin.yields_declaration model change
  have enums : List.Forall₂ Origin.Yields
      ((config.analyze usage comparison).enumChanges.map .enum)
      ((config.analyze usage comparison).enumChanges.filterMap (·.classify?)) := by
    rw [List.forall₂_map_left_iff]
    refine forall₂_filterMap fun change member => ?_
    exact Origin.yields_enum (filled_of_mem_enumChanges config usage comparison member).1
  have removed : List.Forall₂ Origin.Yields
      (((config.analyze usage comparison).removedModels.filter fun path =>
        usage.Covers (ModelName.ofPath path) path).map .removal)
      ((config.analyze usage comparison).removedModels.filterMap (removedModelItem? usage)) := by
    have covered : (config.analyze usage comparison).removedModels.filterMap
          (removedModelItem? usage) =
        ((config.analyze usage comparison).removedModels.filter fun path =>
          usage.Covers (ModelName.ofPath path) path).filterMap (removedModelItem? usage) := by
      rw [List.filterMap_filter]
      apply List.filterMap_congr
      intro path _
      simp only [removedModelItem?, usage.relevant_iff, decide_eq_true_eq]
      split <;> rfl
    rw [covered, List.forall₂_map_left_iff]
    refine forall₂_filterMap fun path member => ?_
    exact Origin.yields_removal (of_decide_eq_true (List.mem_filter.mp member).2)
  exact List.rel_append (List.rel_append declared enums) removed

/-- Each origin is about the model that its file is named for, and about one that is used. -/
theorem covers_of_mem_origins {origin : Origin}
    (member : origin ∈ (config.analyze usage comparison).origins usage) :
    origin.model = ModelName.ofPath origin.path ∧ usage.Covers origin.model origin.path := by
  rw [Analysis.origins, List.mem_append, List.mem_append] at member
  rcases member with (declared | enum) | removed
  · obtain ⟨model, kept, listed⟩ := List.mem_flatMap.mp declared
    obtain ⟨change, _, rfl⟩ := List.mem_map.mp listed
    obtain ⟨scanned, relevant⟩ := List.mem_filter.mp kept
    obtain ⟨path, changes, rfl⟩ := Diff.exists_ofChanges_of_mem_changes scanned
    exact ⟨rfl, (usage.relevant_iff _ _).mp relevant⟩
  · obtain ⟨change, kept, rfl⟩ := List.mem_map.mp enum
    exact ⟨(filled_of_mem_enumChanges config usage comparison kept).2,
      (usage.relevant_iff _ _).mp (List.mem_filter.mp kept).2⟩
  · obtain ⟨path, kept, rfl⟩ := List.mem_map.mp removed
    exact ⟨rfl, of_decide_eq_true (List.mem_filter.mp kept).2⟩

theorem removedModels_eq :
    (config.analyze usage comparison).removedModels =
      (comparison.files.filter fun file => file.status = .removed ∧
        config.library.modelDir.toList <+: file.path.toList).map (·.path) := by
  have under : removedModelFiles comparison.files config.library.modelDir =
      comparison.files.filter fun file => file.status = .removed ∧
        config.library.modelDir.toList <+: file.path.toList := by
    apply List.filter_congr
    intro file _
    rw [Bool.eq_iff_iff, Bool.and_eq_true, file.isUnder_iff, beq_iff_eq, decide_eq_true_iff]
    exact And.comm
  rw [← under]
  rfl

end Analyze

/-- What an analysis takes over from the scan of the model files. -/
structure Analysis.TakesScan (analysis : Analysis) (usage : Usage)
    (modelFiles : List ChangedFile) : Prop where
  stats : analysis.stats = (Diff.scanText (unifiedDiff modelFiles)).stats
  unchangedFiles : analysis.unchangedFiles =
    (Diff.scanText (unifiedDiff modelFiles)).unchangedFiles
  modelChanges : analysis.modelChanges =
    (Diff.scanText (unifiedDiff modelFiles)).changes.filter fun change =>
      usage.Covers change.model change.path
  unusedChanges : analysis.unusedChanges =
    (Diff.scanText (unifiedDiff modelFiles)).changes.countP fun change =>
      ¬ usage.Covers change.model change.path
  enumChanges : analysis.enumChanges =
    (modelFiles.filterMap EnumChange.ofFile?).filter fun change =>
      usage.Covers change.model change.path

/-- The account that an analysis gives: of the files of the comparison, of the models that have
    changed, and of each item. -/
structure Analysis.IsAccount (analysis : Analysis) (config : Config) (usage : Usage)
    (comparison : Comparison) : Prop where
  listed : (analysis.report.levels.flatMap Prod.snd).Perm
    (comparison.files.map (config.classifyFile usage))
  levels : analysis.report.levels.Pairwise (·.1.rank < ·.1.rank)
  filesAt : ∀ level, analysis.report.filesAt level =
    (comparison.files.filter fun file => (config.classify usage file).1 = level).map
      (config.classifyFile usage)
  fileCounts : ∀ level, (analysis.report.summary.files.lookup level).getD 0 =
    (analysis.report.filesAt level).length
  filesSum : (analysis.report.summary.files.map Prod.snd).sum = analysis.report.summary.totalFiles
  filesTotal : analysis.report.summary.totalFiles = comparison.files.length
  changedModels : analysis.modelChanges.length + analysis.unusedChanges =
    analysis.stats.filesWithChanges
  takesScan : analysis.TakesScan usage
    (comparison.files.filter (ChangedFile.IsScanned config.library.modelDir))
  items : List.Forall₂ Origin.Yields (analysis.origins usage) analysis.report.items
  itemCounts : ∀ level, (analysis.report.summary.items.lookup level).getD 0 =
    (analysis.report.itemsAt level).length
  itemsSum : (analysis.report.summary.items.map Prod.snd).sum = analysis.report.summary.totalItems
  itemsTotal : analysis.report.summary.totalItems = analysis.report.items.length
  removedModels : analysis.removedModels =
    (comparison.files.filter fun file => file.status = .removed ∧
      config.library.modelDir.toList <+: file.path.toList).map (·.path)
  named : ∀ origin ∈ analysis.origins usage, origin.model = ModelName.ofPath origin.path
  used : usage.isEmpty = false → ∀ origin ∈ analysis.origins usage,
    origin.model ∈ usage.models ∨ origin.path ∈ usage.files

theorem analyze_takesScan (config : Config) (usage : Usage) (comparison : Comparison) :
    (config.analyze usage comparison).TakesScan usage
      (comparison.files.filter (ChangedFile.IsScanned config.library.modelDir)) := by
  have covers (model path : String) :
      usage.relevant model path = decide (usage.Covers model path) := by
    rw [Bool.eq_iff_iff, usage.relevant_iff, decide_eq_true_iff]
  rw [← modelFiles_eq]
  constructor
  case unusedChanges =>
    have split := List.length_eq_countP_add_countP
      (fun change : ModelChange => decide (usage.Covers change.model change.path))
      (l := (Diff.scanText (unifiedDiff
        (modelFiles comparison.files config.library.modelDir))).changes)
    simp only [List.countP_eq_length_filter, decide_eq_true_eq] at split
    simp only [Config.analyze, covers, List.countP_eq_length_filter]
    exact Nat.sub_eq_of_eq_add' split
  all_goals simp only [Config.analyze, covers]

theorem analyze_isAccount (config : Config) (usage : Usage) (comparison : Comparison) :
    (config.analyze usage comparison).IsAccount config usage comparison := by
  have items := origins_yield_items config usage comparison
  have covers (origin) (member : origin ∈ (config.analyze usage comparison).origins usage) :=
    covers_of_mem_origins config usage comparison member
  have removedModels := removedModels_eq config usage comparison
  have report : (config.analyze usage comparison).report =
      .build (comparison.files.map (config.classifyFile usage))
        (config.analyze usage comparison).report.items := rfl
  have takesScan := analyze_takesScan config usage comparison
  exact {
    listed := by
      rw [report]
      exact Report.flatMap_byLevel_perm _
    levels := by
      rw [report]
      exact Report.byLevel_ascending _
    filesAt := fun level => by
      rw [report, Report.filesAt_build, List.filter_map]
      rfl
    fileCounts := by
      rw [report]
      exact Report.fileCount_build _ _
    filesSum := by
      rw [report]
      exact Report.sum_fileCounts_build _ _
    filesTotal := by
      rw [report]
      exact List.length_map _
    changedModels := by
      rw [takesScan.stats, takesScan.modelChanges, takesScan.unusedChanges,
        (Diff.counted_files _).1, ← List.countP_eq_length_filter]
      simpa using (List.length_eq_countP_add_countP _).symm
    takesScan
    items
    itemCounts := by
      rw [report]
      exact Report.itemCount_build _ _
    itemsSum := by
      rw [report]
      exact Report.sum_itemCounts_build _ _
    itemsTotal := by
      rw [report]
      rfl
    removedModels
    named := fun origin member => (covers origin member).1
    used := fun filled origin member => by
      refine (covers origin member).2.resolve_left fun empty => ?_
      simp [Usage.isEmpty, empty] at filled }

end ReleaseDrift
