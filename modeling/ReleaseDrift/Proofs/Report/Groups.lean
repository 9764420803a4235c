import Mathlib.Algebra.GroupWithZero.Nat
import ReleaseDrift.Proofs.Grouping
import ReleaseDrift.Proofs.Report.Threshold

/-!
The groups of a report and what it counts. Every file stands in the group of its level, and the
counts of the levels add up.
-/

namespace ReleaseDrift

theorem Level.nodup_all : all.Nodup := by decide

theorem getD_lookup_countLevels (levels : List Level) (level : Level) :
    ((countLevels levels).lookup level).getD 0 = levels.count level := by
  rw [countLevels_eq, Level.getD_lookup_mapOf _ (by simp)]
  exact if_pos level.mem_all

theorem count_map_level {Entry : Type} (level : Entry → Level) (entries : List Entry)
    (wanted : Level) :
    (entries.map level).count wanted = (entries.filter (level · == wanted)).length := by
  rw [List.count_eq_countP, List.countP_map, ← List.countP_eq_length_filter]
  rfl

theorem sum_filter_ne_zero (counts : List (Level × Nat)) :
    ((counts.filter fun entry => entry.2 != 0).map Prod.snd).sum = (counts.map Prod.snd).sum := by
  induction counts with
  | nil => rfl
  | cons entry counts ih =>
      rw [List.filter_cons, List.map_cons, List.sum_cons, ← ih]
      by_cases zero : entry.2 = 0 <;> simp [zero]

theorem sum_countLevels (levels : List Level) :
    ((countLevels levels).map Prod.snd).sum = levels.length := by
  have grouped := groups_perm id Level.nodup_all fun level (_ : level ∈ levels) => level.mem_all
  rw [countLevels_eq, Level.mapOf, sum_filter_ne_zero, ← grouped.length_eq, List.length_flatMap,
    List.map_map]
  congr 1
  apply List.map_congr_left
  intro level _
  exact List.count_eq_length_filter

namespace Report

variable (files : List ClassifiedFile) (items : List ClassifiedItem)

theorem flatMap_byLevel :
    (byLevel files).flatMap Prod.snd =
      Level.all.flatMap fun level => files.filter (·.level == level) := by
  rw [byLevel_eq, Level.mapOf, flatMap_filter_of_silent, List.flatMap_map]
  intro entry _ empty
  simpa using empty

theorem flatMap_byLevel_perm : ((byLevel files).flatMap Prod.snd).Perm files := by
  rw [flatMap_byLevel]
  exact groups_perm ClassifiedFile.level Level.nodup_all fun file _ => file.level.mem_all

theorem filter_flatMap_byLevel (level : Level) :
    ((byLevel files).flatMap Prod.snd).filter (·.level == level) =
      files.filter (·.level == level) := by
  rw [flatMap_byLevel]
  exact filter_key_groups ClassifiedFile.level Level.nodup_all level.mem_all files

theorem byLevel_ascending : (byLevel files).Pairwise (·.1.rank < ·.1.rank) := by
  rw [byLevel_eq]
  exact List.Pairwise.filter _ (List.pairwise_map.mpr Level.all_ascending)

theorem fileCount_build (level : Level) :
    ((build files items).summary.files.lookup level).getD 0 =
      ((build files items).filesAt level).length := by
  rw [filesAt_build, ← count_map_level]
  exact getD_lookup_countLevels (files.map (·.level)) level

theorem itemCount_build (level : Level) :
    ((build files items).summary.items.lookup level).getD 0 =
      ((build files items).itemsAt level).length := by
  rw [itemsAt, ← count_map_level]
  exact getD_lookup_countLevels (items.map (·.level)) level

theorem sum_fileCounts_build :
    ((build files items).summary.files.map Prod.snd).sum =
      (build files items).summary.totalFiles := by
  have counted := sum_countLevels (files.map (·.level))
  rwa [List.length_map] at counted

theorem sum_itemCounts_build :
    ((build files items).summary.items.map Prod.snd).sum =
      (build files items).summary.totalItems := by
  have counted := sum_countLevels (items.map (·.level))
  rwa [List.length_map] at counted

theorem build_congr {files others : List ClassifiedFile}
    (same : ∀ level, files.filter (·.level == level) = others.filter (·.level == level)) :
    build files items = build others items := by
  have groups : byLevel files = byLevel others := by
    simp only [byLevel_eq, same]
  have total : files.length = others.length := by
    rw [← (flatMap_byLevel_perm files).length_eq, groups, (flatMap_byLevel_perm others).length_eq]
  have counts : countLevels (files.map (·.level)) = countLevels (others.map (·.level)) := by
    rw [countLevels_eq, countLevels_eq]
    exact Level.mapOf_congr fun level _ => by rw [count_map_level, count_map_level, same]
  simp only [build, groups, total, counts]

end Report

end ReleaseDrift
