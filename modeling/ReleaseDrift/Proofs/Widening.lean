import Mathlib.Data.List.Flatten
import ReleaseDrift.Proofs.Verdict

/-!
A wider index of what is used. An index that names more, or that is dropped, finds at least as
much: it keeps every item, lowers no file and fails every run that the narrower one fails.
-/

namespace ReleaseDrift

/-- Whatever one index uses, the other uses too. This is no plain inclusion: an index without
    any entry uses everything, and one without packages every package. -/
structure Usage.Within (narrow wide : Usage) : Prop where
  models : wide.isEmpty = true ∨
    narrow.isEmpty = false ∧ narrow.models ⊆ wide.models ∧ narrow.files ⊆ wide.files
  packages : wide.packages = [] ∨ narrow.packages ≠ [] ∧ narrow.packages ⊆ wide.packages

theorem filterMap_sublist_filterMap {Item Entry : Type} {some? more? : Item → Option Entry}
    (items : List Item) (kept : ∀ item entry, some? item = some entry → more? item = some entry) :
    (items.filterMap some?).Sublist (items.filterMap more?) := by
  induction items with
  | nil => exact List.Sublist.refl []
  | cons item items ih =>
      cases found : some? item with
      | some entry =>
          rw [List.filterMap_cons_some found, List.filterMap_cons_some (kept item entry found)]
          exact ih.cons_cons entry
      | none =>
          rw [List.filterMap_cons_none found, List.filterMap_cons]
          split
          · exact ih
          · exact ih.cons _

namespace Usage.Within

variable {narrow wide : Usage}

theorem relevant (within : narrow.Within wide) {model path : String}
    (used : narrow.relevant model path = true) : wide.relevant model path = true := by
  rcases within.models with dropped | ⟨filled, models, files⟩
  · simp [Usage.relevant, dropped]
  · simp only [Usage.relevant, filled, Bool.false_or, usesModel, Bool.or_eq_true,
      List.contains_iff_mem] at used ⊢
    exact Or.inr (used.imp (fun named => models named) (fun listed => files listed))

theorem usesPackageOf (within : narrow.Within wide) {path : String}
    (used : narrow.usesPackageOf path = true) : wide.usesPackageOf path = true := by
  rw [usesPackageOf_iff] at used ⊢
  rcases within.packages with dropped | ⟨filled, packages⟩
  · exact Or.inl dropped
  · obtain ⟨package, listed, same⟩ := used.resolve_left filled
    exact Or.inr ⟨package, packages listed, same⟩

theorem filter_relevant (within : narrow.Within wide) {Entry : Type} (model path : Entry → String)
    (entries : List Entry) :
    (entries.filter fun entry => narrow.relevant (model entry) (path entry)).Sublist
      (entries.filter fun entry => wide.relevant (model entry) (path entry)) :=
  List.monotone_filter_right entries fun _ used => within.relevant used

theorem removedItems_sublist (within : narrow.Within wide) (paths : List String) :
    (paths.filterMap (removedModelItem? narrow)).Sublist
      (paths.filterMap (removedModelItem? wide)) := by
  apply filterMap_sublist_filterMap
  intro path item found
  simp only [removedModelItem?, Option.ite_none_right_eq_some] at found ⊢
  exact ⟨within.relevant found.1, found.2⟩

theorem severity_le (within : narrow.Within wide) (config : Config) (file : ChangedFile) :
    (config.classifyFile narrow file).level.severity ≤
      (config.classifyFile wide file).level.severity := by
  have level (usage : Usage) : (config.classifyFile usage file).level =
      (config.classify usage file).1 := rfl
  simp only [level, Config.classify]
  cases used : narrow.usesPackageOf file.path with
  | true => simp [within.usesPackageOf used]
  | false =>
      split
      · exact Nat.le_refl _
      · split
        · exact Nat.le_refl _
        · exact Nat.zero_le _

theorem modelChanges_sublist (within : narrow.Within wide) (config : Config)
    (comparison : Comparison) :
    (config.analyze narrow comparison).modelChanges.Sublist
      (config.analyze wide comparison).modelChanges :=
  within.filter_relevant ModelChange.model ModelChange.path _

theorem enumChanges_sublist (within : narrow.Within wide) (config : Config)
    (comparison : Comparison) :
    (config.analyze narrow comparison).enumChanges.Sublist
      (config.analyze wide comparison).enumChanges :=
  within.filter_relevant EnumChange.model EnumChange.path _

theorem items_sublist (within : narrow.Within wide) (config : Config) (comparison : Comparison) :
    (config.analyze narrow comparison).report.items.Sublist
      (config.analyze wide comparison).report.items := by
  have declared := (within.modelChanges_sublist config comparison).flatMap (·.classify)
  have enums := (within.enumChanges_sublist config comparison).filterMap (·.classify?)
  have removed := within.removedItems_sublist
    ((removedModelFiles comparison.files config.library.modelDir).map (·.path))
  exact (declared.append enums).append removed

theorem reaches (within : narrow.Within wide) (config : Config) (comparison : Comparison)
    {threshold : Level} (reached : (config.analyze narrow comparison).report.reaches threshold) :
    (config.analyze wide comparison).report.reaches threshold := by
  have items := (within.items_sublist config comparison).subset
  simp only [Config.analyze, Report.build_reaches_iff] at reached items ⊢
  rcases reached with ⟨_, member, below⟩ | ⟨item, found, below⟩
  · obtain ⟨file, given, rfl⟩ := List.mem_map.mp member
    refine Or.inl ⟨_, List.mem_map_of_mem given, ?_⟩
    simp only [Level.reaches, decide_eq_true_eq] at below ⊢
    exact Nat.le_trans below (within.severity_le config file)
  · exact Or.inr ⟨item, items found, below⟩

end Usage.Within

/-- Naming more in the index, or dropping it, hides no change and turns no failing run green. -/
theorem analyze_within (config : Config) {narrow wide : Usage} (within : narrow.Within wide)
    (comparison : Comparison) :
    let less := config.analyze narrow comparison
    let more := config.analyze wide comparison
    less.report.items.Sublist more.report.items ∧
      less.modelChanges.Sublist more.modelChanges ∧
      less.enumChanges.Sublist more.enumChanges ∧
      more.unusedChanges ≤ less.unusedChanges ∧
      (∀ file ∈ comparison.files, ∃ low high : Level,
        config.classifyFile narrow file ∈ less.report.filesAt low ∧
          config.classifyFile wide file ∈ more.report.filesAt high ∧
          low.severity ≤ high.severity) ∧
      ∀ threshold, less.report.exitCode threshold = .breaking →
        more.report.exitCode threshold = .breaking := by
  intro less more
  have changes := within.modelChanges_sublist config comparison
  refine ⟨within.items_sublist config comparison, changes,
    within.enumChanges_sublist config comparison, Nat.sub_le_sub_left changes.length_le _, ?_, ?_⟩
  · intro file given
    refine ⟨_, _, ?_, ?_, within.severity_le config file⟩
    all_goals
      simp only [less, more, Config.analyze, Report.filesAt_build, List.mem_filter,
        beq_self_eq_true, and_true]
      exact List.mem_map_of_mem given
  · intro threshold failed
    rw [Report.exitCode_eq_breaking_iff] at failed ⊢
    exact within.reaches config comparison failed

theorem analyze_within_two_packages :
    let config : Config := { impact := { metadata := ["*.lock"], noise := ["doc/**"] } }
    let narrow : Usage := { models := ["Group"], packages := ["models"] }
    let wide : Usage := { models := ["Group", "User"], packages := ["api", "models"] }
    let comparison : Comparison :=
      { files := [
          { path := "models/group.go", status := .removed, additions := 0, deletions := 9
            patch := none },
          { path := "models/user.go", status := .modified, additions := 0, deletions := 1
            patch := some "-    Owner *string" }]
        commitCount := 2
        compareUrl := none }
    let less := config.analyze narrow comparison
    let more := config.analyze wide comparison
    narrow.Within wide ∧ less.report.exitCode .critical = .breaking ∧
      more.report.exitCode .critical = .breaking ∧ less.modelChanges = [] ∧
      more.modelChanges ≠ [] ∧ less.report.items.Sublist more.report.items := by
  intro config narrow wide comparison less more
  have within : narrow.Within wide := ⟨Or.inr (by decide), Or.inr (by decide)⟩
  obtain ⟨items, _, _, _, _, fails⟩ := analyze_within config within comparison
  have failed : less.report.exitCode .critical = .breaking := by decide +kernel
  exact ⟨within, failed, fails .critical failed, by decide +kernel, by decide +kernel, items⟩

end ReleaseDrift
