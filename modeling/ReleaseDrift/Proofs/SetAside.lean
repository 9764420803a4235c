import ReleaseDrift.Proofs.Verdict

/-!
Files that the settings set aside as metadata or noise. The table of files keeps them below every
other level. The search for declarations, enum values and models that were lost goes by the model
directory alone, so a run over such files breaks exactly when something is found there.
-/

namespace ReleaseDrift

def ImpactSettings.SetsAside (settings : ImpactSettings) (path : String) : Prop :=
  Glob.matchesAny settings.metadata path = true ∨ Glob.matchesAny settings.noise path = true

instance (settings : ImpactSettings) (path : String) : Decidable (settings.SetsAside path) :=
  inferInstanceAs (Decidable (_ ∨ _))

theorem Config.classify_of_setsAside {config : Config} {file : ChangedFile}
    (aside : config.impact.SetsAside file.path) (usage : Usage) :
    (config.classify usage file).1 = .metadata ∨ (config.classify usage file).1 = .noise := by
  unfold classify
  by_cases metadata : Glob.matchesAny config.impact.metadata file.path = true
  · rw [if_pos metadata]
    exact .inl rfl
  · rw [if_neg metadata, if_pos (aside.resolve_left metadata)]
    exact .inr rfl

theorem Level.reaches_eq_false_of_aside {level threshold : Level}
    (aside : level = .metadata ∨ level = .noise)
    (above : Level.metadata.severity < threshold.severity) : level.reaches threshold = false := by
  rw [reaches, decide_eq_false_iff_not, Nat.not_le]
  rcases aside with rfl | rfl
  · exact above
  · exact Nat.lt_of_le_of_lt (by decide) above

section Analyze

variable (config : Config) (usage : Usage) (comparison : Comparison)

/-- An item that breaks the run has one of three reasons, none of which asks for a pattern. -/
theorem exists_item_reaches_critical_iff :
    (∃ item ∈ (config.analyze usage comparison).report.items,
        item.level.reaches .critical = true) ↔
      usage.LosesDeclaration (modelFiles comparison.files config.library.modelDir) ∨
        usage.LosesEnumValue (modelFiles comparison.files config.library.modelDir) ∨
        usage.LosesModel config.library.modelDir comparison.files := by
  rw [← exists_declaration_reaches_critical_iff, ← exists_enum_reaches_critical_iff,
    ← exists_model_reaches_critical_iff]
  simp only [Config.analyze, Report.build, List.mem_append, or_and_right, exists_or, or_assoc]

theorem report_analyze :
    (config.analyze usage comparison).report =
      .build (comparison.files.map (config.classifyFile usage))
        (config.analyze usage comparison).report.items :=
  rfl

variable {config comparison}

theorem filesAt_of_setsAside
    (aside : ∀ file ∈ comparison.files, config.impact.SetsAside file.path) {level : Level}
    (different : level ≠ .metadata ∧ level ≠ .noise) :
    (config.analyze usage comparison).report.filesAt level = [] := by
  rw [report_analyze, Report.filesAt_build, List.filter_eq_nil_iff, List.forall_mem_map]
  intro file listed same
  have low := Config.classify_of_setsAside (aside file listed) usage
  have level : (config.classify usage file).1 = level := eq_of_beq same
  rw [level] at low
  exact low.elim different.1 different.2

theorem reaches_iff_of_setsAside
    (aside : ∀ file ∈ comparison.files, config.impact.SetsAside file.path) {threshold : Level}
    (above : Level.metadata.severity < threshold.severity) :
    (config.analyze usage comparison).report.reaches threshold = true ↔
      ∃ item ∈ (config.analyze usage comparison).report.items,
        item.level.reaches threshold = true := by
  have silent : ¬ ∃ file ∈ comparison.files.map (config.classifyFile usage),
      file.level.reaches threshold = true := by
    rintro ⟨_, member, reached⟩
    obtain ⟨file, listed, rfl⟩ := List.mem_map.mp member
    have low := Config.classify_of_setsAside (aside file listed) usage
    have below : (config.classifyFile usage file).level.reaches threshold = false :=
      Level.reaches_eq_false_of_aside low above
    rw [below] at reached
    contradiction
  rw [report_analyze, Report.build_reaches_iff, or_iff_right silent]
  rfl

theorem items_of_forall_not_under
    (outside : ∀ file ∈ comparison.files, ¬ config.library.modelDir.toList <+: file.path.toList) :
    (config.analyze usage comparison).report.items = [] := by
  have none (test : ChangedFile → Bool) :
      (comparison.files.filter fun file => file.isUnder config.library.modelDir && test file) =
        [] := by
    rw [List.filter_eq_nil_iff]
    intro file listed found
    rw [Bool.and_eq_true, file.isUnder_iff] at found
    exact outside file listed found.1
  simp only [Config.analyze, Report.build, modelFiles, removedModelFiles, none]
  rfl

end Analyze

/-- What an analysis makes of files that are all set aside. -/
structure Analysis.SetsFilesAside (analysis : Analysis) (config : Config) (usage : Usage)
    (comparison : Comparison) : Prop where
  files : ∀ level : Level, level ≠ .metadata ∧ level ≠ .noise → analysis.report.filesAt level = []
  reaches : ∀ threshold : Level, Level.metadata.severity < threshold.severity →
    (analysis.report.reaches threshold = true ↔
      ∃ item ∈ analysis.report.items, item.level.reaches threshold = true)
  items : ∀ impact : ImpactSettings,
    ({ config with impact }.analyze usage comparison).report.items = analysis.report.items
  breaking : (∃ item ∈ analysis.report.items, item.level = .critical ∨ item.level = .enumRemoved) ↔
    usage.LosesDeclaration (modelFiles comparison.files config.library.modelDir) ∨
      usage.LosesEnumValue (modelFiles comparison.files config.library.modelDir) ∨
      usage.LosesModel config.library.modelDir comparison.files
  outside : (∀ file ∈ comparison.files,
      ¬ config.library.modelDir.toList <+: file.path.toList) →
    analysis.report.items = [] ∧ analysis.report.reaches .critical = false

theorem analyze_setsFilesAside {config : Config} {comparison : Comparison}
    (aside : ∀ file ∈ comparison.files, config.impact.SetsAside file.path) (usage : Usage) :
    (config.analyze usage comparison).SetsFilesAside config usage comparison := by
  have reaches (threshold : Level) (above : Level.metadata.severity < threshold.severity) :=
    reaches_iff_of_setsAside usage aside above
  exact {
    files := fun _ different => filesAt_of_setsAside usage aside different
    reaches
    items := fun _ => rfl
    breaking := by
      simp only [← Level.reaches_critical_iff]
      exact exists_item_reaches_critical_iff config usage comparison
    outside := by
      intro outside
      have items := items_of_forall_not_under usage outside
      refine ⟨items, ?_⟩
      rw [← Bool.not_eq_true, reaches .critical (by decide), items]
      rintro ⟨item, member, _⟩
      contradiction }

theorem analyze_setsFilesAside_of_test_file :
    let config : Config := {}
    let comparison : Comparison :=
      { files := [{ path := "models/user_test.go", status := .modified, additions := 0,
                    deletions := 1, patch := some "@@ -4,3 +4,2 @@\n-    Owner *string\n" }]
        commitCount := 1
        compareUrl := none }
    (∀ file ∈ comparison.files, config.impact.SetsAside file.path) ∧
      (config.analyze {} comparison).SetsFilesAside config {} comparison ∧
      (config.analyze {} comparison).report.reaches .critical = true := by
  intro config comparison
  have aside : ∀ file ∈ comparison.files, config.impact.SetsAside file.path :=
    List.forall_mem_singleton.mpr (by decide +kernel)
  have kept := analyze_setsFilesAside aside {}
  refine ⟨aside, kept, ?_⟩
  rw [kept.reaches .critical (by decide)]
  decide +kernel

/-- A file of metadata under the model directory: removing it breaks the run. -/
theorem removed_metadata_file_breaks :
    let config : Config := {}
    let comparison : Comparison :=
      { files := [{ path := "models/go.mod", status := .removed, additions := 0, deletions := 0,
                    patch := none }]
        commitCount := 0
        compareUrl := none }
    (∀ file ∈ comparison.files, config.impact.SetsAside file.path) ∧
      (config.analyze {} comparison).report.items.map (·.level) = [.critical] ∧
      (config.analyze {} comparison).report.reaches .critical = true ∧
      ¬ ((∀ item ∈ (config.analyze {} comparison).report.items,
            item.level ≠ .critical ∧ item.level ≠ .enumRemoved) ∧
          (config.analyze {} comparison).report.reaches .critical = false) := by
  intro config comparison
  have aside : ∀ file ∈ comparison.files, config.impact.SetsAside file.path :=
    List.forall_mem_singleton.mpr (by decide +kernel)
  have levels : (config.analyze {} comparison).report.items.map (·.level) = [.critical] := by
    decide +kernel
  have reached : (config.analyze {} comparison).report.reaches .critical = true := by
    decide +kernel
  refine ⟨aside, levels, reached, ?_⟩
  rintro ⟨_, silent⟩
  exact absurd (reached.symm.trans silent) (by decide)

end ReleaseDrift
