import ReleaseDrift.Proofs.Report.LevelMap

/-!
When a report reaches a threshold: the level it names reaches it exactly when the level of some
file or some item does. And where a report lists a file: under its own level.
-/

namespace ReleaseDrift

namespace Level

theorem worse_reaches (left right threshold : Level) :
    (left.worse right).reaches threshold =
      (left.reaches threshold || right.reaches threshold) := by
  simp only [worse, reaches]
  split
  · grind
  · split
    · grind
    · split <;> grind

theorem worst?_any_reaches (levels : List Level) (threshold : Level) :
    (worst? levels).any (·.reaches threshold) = levels.any (·.reaches threshold) := by
  induction levels with
  | nil => rfl
  | cons level levels ih =>
      rw [worst?, List.any_cons, ← ih]
      cases worst? levels with
      | none => simp
      | some other => simp [worse_reaches]

end Level

theorem mem_countLevels_iff (levels : List Level) (level : Level) :
    level ∈ (countLevels levels).map Prod.fst ↔ level ∈ levels := by
  rw [countLevels_eq, Level.mem_map_fst_mapOf_iff, and_iff_right level.mem_all, bne_iff_ne,
    ← Nat.pos_iff_ne_zero, List.count_pos_iff]

theorem countLevels_any (levels : List Level) (predicate : Level → Bool) :
    ((countLevels levels).map Prod.fst).any predicate = levels.any predicate := by
  rw [Bool.eq_iff_iff, List.any_eq_true, List.any_eq_true]
  simp only [mem_countLevels_iff]

theorem Report.build_reaches_iff (files : List ClassifiedFile) (items : List ClassifiedItem)
    (threshold : Level) :
    (build files items).reaches threshold = true ↔
      (∃ file ∈ files, file.level.reaches threshold = true) ∨
        ∃ item ∈ items, item.level.reaches threshold = true := by
  rw [reaches, build, Level.worst?_any_reaches, List.map_append, List.any_append,
    countLevels_any, countLevels_any, List.any_map, List.any_map, Bool.or_eq_true,
    List.any_eq_true, List.any_eq_true]
  rfl

namespace Report

theorem exitCode_eq_breaking_iff (report : Report) (failOn : Level) :
    report.exitCode failOn = .breaking ↔ report.reaches failOn = true := by
  rw [exitCode]
  split <;> simp [*]

theorem filesAt_build (files : List ClassifiedFile) (items : List ClassifiedItem) (level : Level) :
    (build files items).filesAt level = files.filter (·.level == level) := by
  rw [filesAt, build, byLevel_eq, Level.getD_lookup_mapOf _ (by simp)]
  exact if_pos level.mem_all

end Report

end ReleaseDrift
