import ReleaseDrift.Analysis
import ReleaseDrift.Proofs.Diff.History
import ReleaseDrift.Proofs.Report.Threshold
import ReleaseDrift.Proofs.Text.Affix

/-!
What makes a comparison breaking: four kinds of findings, each said by itself, and no other.
-/

namespace ReleaseDrift

namespace Usage

/-- A model is named by its name or by its file, or the index says nothing. -/
def Covers (usage : Usage) (model path : String) : Prop :=
  (usage.models = [] ∧ usage.files = [] ∧ usage.packages = []) ∨
    model ∈ usage.models ∨ path ∈ usage.files

def CoversPackageOf (usage : Usage) (path : String) : Prop :=
  usage.packages = [] ∨
    ∃ package ∈ usage.packages, normalizeDir package = ModelName.parentDir path

theorem relevant_iff (usage : Usage) (model path : String) :
    usage.relevant model path = true ↔ usage.Covers model path := by
  simp only [relevant, isEmpty, usesModel, Covers, Bool.or_eq_true, Bool.and_eq_true,
    List.isEmpty_iff, List.contains_iff_mem, and_assoc]

theorem usesPackageOf_iff (usage : Usage) (path : String) :
    usage.usesPackageOf path = true ↔ usage.CoversPackageOf path := by
  simp only [usesPackageOf, CoversPackageOf, Bool.or_eq_true, List.isEmpty_iff, List.any_eq_true,
    beq_iff_eq]

end Usage

theorem Level.reaches_critical_iff (level : Level) :
    level.reaches .critical = true ↔ level = .critical ∨ level = .enumRemoved := by
  cases level <;> decide

theorem ChangedFile.isUnder_iff (file : ChangedFile) (dir : String) :
    file.isUnder dir = true ↔ dir.toList <+: file.path.toList :=
  Text.startsWith_iff _ _

namespace ChangedFile

theorem hasPatch_iff (file : ChangedFile) :
    file.hasPatch = true ↔
      ∃ patch ∈ file.patch, ∃ c ∈ patch.toList, Text.isBlank c = false := by
  cases shown : file.patch with
  | none => simp [hasPatch, shown]
  | some patch => simp [hasPatch, shown, Text.trim_eq_nil_iff]

/-- A file under the model directory that was removed or has a patch with more than blanks. -/
def IsScanned (modelDir : String) (file : ChangedFile) : Prop :=
  modelDir.toList <+: file.path.toList ∧
    (file.status = .removed ∨
      ∃ patch ∈ file.patch, ∃ c ∈ patch.toList, Text.isBlank c = false)

instance (modelDir : String) : DecidablePred (IsScanned modelDir) := fun _ =>
  inferInstanceAs (Decidable (_ ∧ (_ ∨ _)))

end ChangedFile

theorem modelFiles_eq (files : List ChangedFile) (modelDir : String) :
    modelFiles files modelDir = files.filter (ChangedFile.IsScanned modelDir) := by
  apply List.filter_congr
  intro file _
  rw [Bool.eq_iff_iff, Bool.and_eq_true, file.isUnder_iff, decide_eq_true_iff,
    ChangedFile.IsScanned, ← file.hasPatch_iff, ChangedFile.isWholeRemoval]
  cases file.hasPatch <;> simp

/-- A removed file of a used package that no metadata and no noise pattern sets aside. -/
def Config.RemovesFile (config : Config) (usage : Usage) (files : List ChangedFile) : Prop :=
  ∃ file ∈ files, file.status = .removed ∧
    Glob.matchesAny config.impact.metadata file.path = false ∧
    Glob.matchesAny config.impact.noise file.path = false ∧
    usage.CoversPackageOf file.path

def Usage.LosesDeclaration (usage : Usage) (modelFiles : List ChangedFile) : Prop :=
  ∃ change ∈ (Diff.scanText (unifiedDiff modelFiles)).changes,
    (change.fieldsRemoved ≠ [] ∨ change.methodsRemoved ≠ [] ∨ change.embeddedRemoved ≠ []) ∧
      usage.Covers (ModelName.ofPath change.path) change.path

def Usage.LosesEnumValue (usage : Usage) (modelFiles : List ChangedFile) : Prop :=
  ∃ file ∈ modelFiles, ∃ patch, file.patch = some patch ∧
    (EnumValues.ofPatch patch.toList).2 ≠ [] ∧
      usage.Covers (ModelName.ofPath file.path) file.path

def Usage.LosesModel (usage : Usage) (modelDir : String) (files : List ChangedFile) : Prop :=
  ∃ file ∈ files, file.status = .removed ∧ modelDir.toList <+: file.path.toList ∧
    usage.Covers (ModelName.ofPath file.path) file.path

theorem Config.classify_reaches_critical_iff (config : Config) (usage : Usage)
    (file : ChangedFile) :
    (config.classify usage file).1.reaches .critical = true ↔
      file.status = .removed ∧ Glob.matchesAny config.impact.metadata file.path = false ∧
        Glob.matchesAny config.impact.noise file.path = false ∧
        usage.CoversPackageOf file.path := by
  rw [← Usage.usesPackageOf_iff, Level.reaches_critical_iff]
  unfold classify
  cases Glob.matchesAny config.impact.metadata file.path with
  | true => simp
  | false =>
      cases Glob.matchesAny config.impact.noise file.path with
      | true => simp
      | false =>
          cases usage.usesPackageOf file.path with
          | false => simp
          | true =>
              cases file.status with
              | modified => by_cases likely : Glob.matchesAny config.breakingPatterns file.path <;>
                  simp [likely]
              | _ => simp

theorem exists_file_reaches_critical_iff (config : Config) (usage : Usage)
    (files : List ChangedFile) :
    (∃ file ∈ files.map (config.classifyFile usage), file.level.reaches .critical = true) ↔
      config.RemovesFile usage files := by
  constructor
  · rintro ⟨_, member, reached⟩
    obtain ⟨file, given, rfl⟩ := List.mem_map.mp member
    exact ⟨file, given, (config.classify_reaches_critical_iff usage file).mp reached⟩
  · rintro ⟨file, given, removed⟩
    exact ⟨_, List.mem_map_of_mem given,
      (config.classify_reaches_critical_iff usage file).mpr removed⟩

theorem Change.classify_reaches_critical_iff (change : Change) (model : String) :
    (change.classify model).level.reaches .critical = true ↔ change.direction = .removed := by
  have level : (change.classify model).level = change.direction.level := rfl
  rw [level]
  cases change.direction <;> decide

theorem ModelChange.classify_reaches_critical_iff {model : ModelChange}
    (directed : model.Directed) :
    (∃ item ∈ model.classify, item.level.reaches .critical = true) ↔
      model.fieldsRemoved ≠ [] ∨ model.methodsRemoved ≠ [] ∨ model.embeddedRemoved ≠ [] := by
  rw [← exists_removed_iff directed]
  constructor
  · rintro ⟨_, member, reached⟩
    obtain ⟨change, listed, rfl⟩ := List.mem_map.mp member
    exact ⟨change, listed, (change.classify_reaches_critical_iff model.model).mp reached⟩
  · rintro ⟨change, listed, removed⟩
    exact ⟨_, List.mem_map_of_mem listed,
      (change.classify_reaches_critical_iff model.model).mpr removed⟩

theorem exists_declaration_reaches_critical_iff (usage : Usage) (modelFiles : List ChangedFile) :
    (∃ item ∈ ((Diff.scanText (unifiedDiff modelFiles)).changes.filter fun change =>
        usage.relevant change.model change.path).flatMap (·.classify),
      item.level.reaches .critical = true) ↔ usage.LosesDeclaration modelFiles := by
  constructor
  · rintro ⟨item, member, reached⟩
    obtain ⟨change, kept, listed⟩ := List.mem_flatMap.mp member
    obtain ⟨scanned, relevant⟩ := List.mem_filter.mp kept
    obtain ⟨path, changes, rfl⟩ := Diff.exists_ofChanges_of_mem_changes scanned
    exact ⟨_, scanned, (ModelChange.classify_reaches_critical_iff
      (ModelChange.ofChanges_directed path changes)).mp ⟨item, listed, reached⟩,
      (usage.relevant_iff _ _).mp relevant⟩
  · rintro ⟨change, scanned, removed, covered⟩
    obtain ⟨path, changes, rfl⟩ := Diff.exists_ofChanges_of_mem_changes scanned
    obtain ⟨item, listed, reached⟩ := (ModelChange.classify_reaches_critical_iff
      (ModelChange.ofChanges_directed path changes)).mpr removed
    have relevant := (usage.relevant_iff _ _).mpr covered
    exact ⟨item, List.mem_flatMap.mpr ⟨_, List.mem_filter.mpr ⟨scanned, relevant⟩, listed⟩, reached⟩

namespace EnumChange

theorem classify?_reaches_critical_iff (change : EnumChange) :
    (∃ item, change.classify? = some item ∧ item.level.reaches .critical = true) ↔
      change.removed ≠ [] := by
  simp only [classify?, Option.map_eq_some_iff]
  constructor
  · rintro ⟨_, ⟨level, found, rfl⟩, reached⟩ empty
    rw [Level.reaches_critical_iff] at reached
    simp only [level?, empty, List.isEmpty_nil, Bool.not_true, Bool.false_eq_true,
      if_false] at found
    split at found
    · cases found
      simp at reached
    · contradiction
  · intro filled
    have level : change.level? = some .enumRemoved := by simp [level?, filled]
    exact ⟨_, ⟨.enumRemoved, level, rfl⟩, rfl⟩

def ofPatch (path patch : String) : EnumChange :=
  { path
    model := ModelName.ofPath path
    added := (EnumValues.ofPatch patch.toList).1
    removed := (EnumValues.ofPatch patch.toList).2 }

theorem ofFile?_eq_some_iff (file : ChangedFile) (change : EnumChange) :
    ofFile? file = some change ↔ ∃ patch, file.patch = some patch ∧
      change = ofPatch file.path patch ∧ ¬ (change.added = [] ∧ change.removed = []) := by
  simp only [ofFile?, Option.bind_eq_some_iff]
  constructor
  · rintro ⟨patch, shown, found⟩
    refine ⟨patch, shown, ?_⟩
    split at found
    · contradiction
    · rename_i filled
      cases found
      exact ⟨rfl, by simpa using filled⟩
  · rintro ⟨patch, shown, rfl, filled⟩
    refine ⟨patch, shown, if_neg ?_⟩
    simpa [ofPatch] using filled

end EnumChange

theorem exists_enum_reaches_critical_iff (usage : Usage) (modelFiles : List ChangedFile) :
    (∃ item ∈ ((modelFiles.filterMap EnumChange.ofFile?).filter fun change =>
        usage.relevant change.model change.path).filterMap (·.classify?),
      item.level.reaches .critical = true) ↔ usage.LosesEnumValue modelFiles := by
  constructor
  · rintro ⟨item, member, reached⟩
    obtain ⟨change, kept, classified⟩ := List.mem_filterMap.mp member
    obtain ⟨found, relevant⟩ := List.mem_filter.mp kept
    obtain ⟨file, given, changed⟩ := List.mem_filterMap.mp found
    have removed := change.classify?_reaches_critical_iff.mp ⟨item, classified, reached⟩
    obtain ⟨patch, shown, rfl, _⟩ := (EnumChange.ofFile?_eq_some_iff file change).mp changed
    exact ⟨file, given, patch, shown, removed, (usage.relevant_iff _ _).mp relevant⟩
  · rintro ⟨file, given, patch, shown, removed, covered⟩
    have changed : EnumChange.ofFile? file = some (.ofPatch file.path patch) :=
      (EnumChange.ofFile?_eq_some_iff file _).mpr ⟨patch, shown, rfl, fun empty => removed empty.2⟩
    have found := List.mem_filterMap.mpr ⟨file, given, changed⟩
    obtain ⟨item, classified, reached⟩ :=
      (EnumChange.classify?_reaches_critical_iff (.ofPatch file.path patch)).mpr removed
    refine ⟨item, List.mem_filterMap.mpr ⟨_, List.mem_filter.mpr ⟨found, ?_⟩, classified⟩, reached⟩
    exact (usage.relevant_iff _ _).mpr covered

theorem removedModelItem?_reaches_critical_iff (usage : Usage) (path : String) :
    (∃ item, removedModelItem? usage path = some item ∧ item.level.reaches .critical = true) ↔
      usage.Covers (ModelName.ofPath path) path := by
  rw [← Usage.relevant_iff, removedModelItem?]
  constructor
  · rintro ⟨item, found, _⟩
    split at found
    · assumption
    · contradiction
  · intro relevant
    rw [if_pos relevant]
    exact ⟨_, rfl, rfl⟩

theorem exists_model_reaches_critical_iff (usage : Usage) (modelDir : String)
    (files : List ChangedFile) :
    (∃ item ∈ ((removedModelFiles files modelDir).map (·.path)).filterMap
        (removedModelItem? usage),
      item.level.reaches .critical = true) ↔ usage.LosesModel modelDir files := by
  have removed (file : ChangedFile) : file ∈ removedModelFiles files modelDir ↔
      file ∈ files ∧ file.status = .removed ∧ modelDir.toList <+: file.path.toList := by
    rw [removedModelFiles, List.mem_filter, Bool.and_eq_true, beq_iff_eq, file.isUnder_iff modelDir,
      and_comm (a := modelDir.toList <+: file.path.toList)]
  constructor
  · rintro ⟨item, member, reached⟩
    obtain ⟨path, listed, found⟩ := List.mem_filterMap.mp member
    obtain ⟨file, given, rfl⟩ := List.mem_map.mp listed
    obtain ⟨present, status, under⟩ := (removed file).mp given
    exact ⟨file, present, status, under,
      (removedModelItem?_reaches_critical_iff usage file.path).mp ⟨item, found, reached⟩⟩
  · rintro ⟨file, present, status, under, covered⟩
    have listed := List.mem_map_of_mem (f := (·.path)) ((removed file).mpr ⟨present, status, under⟩)
    obtain ⟨item, found, reached⟩ :=
      (removedModelItem?_reaches_critical_iff usage file.path).mpr covered
    exact ⟨item, List.mem_filterMap.mpr ⟨file.path, listed, found⟩, reached⟩

/-- A run breaks for one of four reasons, and for each of them it does. -/
theorem analyze_breaking_iff (config : Config) (usage : Usage) (comparison : Comparison) :
    let report := (config.analyze usage comparison).report
    let kept := modelFiles comparison.files config.library.modelDir
    kept = comparison.files.filter (ChangedFile.IsScanned config.library.modelDir) ∧
      (report.reaches .critical = true ↔
        config.RemovesFile usage comparison.files ∨ usage.LosesDeclaration kept ∨
          usage.LosesEnumValue kept ∨
          usage.LosesModel config.library.modelDir comparison.files) ∧
      (report.exitCode .critical = .breaking ↔ report.reaches .critical = true) := by
  intro report kept
  refine ⟨modelFiles_eq _ _, ?_, ?_⟩
  · rw [← exists_file_reaches_critical_iff, ← exists_declaration_reaches_critical_iff,
      ← exists_enum_reaches_critical_iff, ← exists_model_reaches_critical_iff]
    simp only [report, Config.analyze, Report.build_reaches_iff, List.mem_append, or_and_right,
      exists_or, or_assoc]
    rfl
  · rw [Report.exitCode]
    split <;> simp [*]

end ReleaseDrift
