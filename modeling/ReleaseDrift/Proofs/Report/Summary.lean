import ReleaseDrift.Proofs.Report.Groups

/-!
The summary of a report. The one level that it keeps is the first, in the order of a report, that
any file or item has. Later levels are never more severe, so that this one tells which thresholds
are reached.
-/

namespace ReleaseDrift

namespace Level

theorem severity_le_of_rank_le {first later : Level} (before : first.rank ≤ later.rank) :
    later.severity ≤ first.severity := by
  revert before
  cases first <;> cases later <;> decide

theorem eq_of_rank_eq {first later : Level} (same : first.rank = later.rank) : first = later := by
  revert same
  cases first <;> cases later <;> decide

/-- Of two levels the one that is reported first is kept, whatever their severities. -/
theorem worse_eq (left right : Level) :
    left.worse right = if left.rank ≤ right.rank then left else right := by
  rw [worse]
  by_cases before : left.rank ≤ right.rank
  · have bound := severity_le_of_rank_le before
    rw [if_pos before, if_neg (Nat.not_lt.mpr bound)]
    split <;> rfl
  · have bound := severity_le_of_rank_le (Nat.le_of_not_le before)
    rw [if_neg before, if_neg (Nat.not_lt.mpr bound)]
    split <;> rfl

theorem worst?_eq_none_iff (levels : List Level) : worst? levels = none ↔ levels = [] := by
  cases levels with
  | nil => simp [worst?]
  | cons level levels =>
      rw [worst?]
      cases worst? levels <;> simp

theorem worst?_eq_some_iff (levels : List Level) (level : Level) :
    worst? levels = some level ↔ level ∈ levels ∧ ∀ other ∈ levels, level.rank ≤ other.rank := by
  induction levels generalizing level with
  | nil => simp [worst?]
  | cons first levels ih =>
      rw [worst?, List.forall_mem_cons, List.mem_cons]
      cases found : worst? levels with
      | none =>
          rw [worst?_eq_none_iff] at found
          subst found
          simp only [Option.some.injEq, List.not_mem_nil, or_false, false_implies, implies_true,
            and_true]
          constructor
          · rintro rfl
            exact ⟨rfl, Nat.le_refl _⟩
          · intro same
            exact same.1.symm
      | some last =>
          obtain ⟨member, least⟩ := (ih last).mp found
          simp only [worse_eq, Option.some.injEq]
          constructor
          · intro same
            split at same
            · subst same
              refine ⟨Or.inl rfl, Nat.le_refl _, ?_⟩
              intro other later
              have bound := least other later
              omega
            · subst same
              exact ⟨Or.inr member, by omega, least⟩
          · rintro ⟨listed, atFirst, atRest⟩
            have atLast := atRest last member
            apply eq_of_rank_eq
            rcases listed with rfl | later
            · rw [if_pos atLast]
            · have bound := least level later
              split <;> omega

theorem find?_all_eq_some_iff (test : Level → Bool) (level : Level) :
    all.find? test = some level ↔
      test level = true ∧ ∀ other, test other = true → level.rank ≤ other.rank := by
  have first {level : Level} (found : all.find? test = some level) :
      test level = true ∧ ∀ other, test other = true → level.rank ≤ other.rank := by
    obtain ⟨passes, before, after, split, missed⟩ := List.find?_eq_some_iff_append.mp found
    refine ⟨passes, ?_⟩
    intro other otherPasses
    have ascending := all_ascending
    have member := other.mem_all
    rw [split] at ascending member
    rcases List.mem_append.mp member with earlier | later
    · have fails := missed other earlier
      simp [otherPasses] at fails
    · rcases List.mem_cons.mp later with rfl | later
      · exact Nat.le_refl _
      · have above := (List.pairwise_cons.mp (List.pairwise_append.mp ascending).2.1).1 other later
        exact Nat.le_of_lt above
  constructor
  · exact first
  · rintro ⟨passes, least⟩
    cases found : all.find? test with
    | none => exact absurd passes (List.find?_eq_none.mp found level level.mem_all)
    | some other =>
        obtain ⟨otherPasses, otherLeast⟩ := first found
        have above := otherLeast level passes
        have below := least other otherPasses
        rw [eq_of_rank_eq (Nat.le_antisymm above below)]

end Level

namespace Report

def givenLevels (files : List ClassifiedFile) (items : List ClassifiedItem) : List Level :=
  files.map (·.level) ++ items.map (·.level)

variable (files : List ClassifiedFile) (items : List ClassifiedItem)

theorem highest_build_eq_some_iff (level : Level) :
    (build files items).summary.highest = some level ↔ level ∈ givenLevels files items ∧
      ∀ other ∈ givenLevels files items, level.rank ≤ other.rank := by
  have same (other : Level) : other ∈ (countLevels (files.map (·.level)) ++
      countLevels (items.map (·.level))).map Prod.fst ↔ other ∈ givenLevels files items := by
    rw [List.map_append, List.mem_append, mem_countLevels_iff, mem_countLevels_iff, givenLevels,
      List.mem_append]
  simp only [build, Level.worst?_eq_some_iff, same]

theorem highest_build :
    (build files items).summary.highest = Level.all.find? (givenLevels files items).contains := by
  apply Option.ext
  intro level
  simp only [highest_build_eq_some_iff, Level.find?_all_eq_some_iff, List.contains_iff_mem]

theorem highest_build_eq_none_iff :
    (build files items).summary.highest = none ↔ files = [] ∧ items = [] := by
  rw [highest_build, List.find?_eq_none]
  constructor
  · intro absent
    have empty : givenLevels files items = [] := by
      rw [List.eq_nil_iff_forall_not_mem]
      intro level member
      exact absent level level.mem_all (List.contains_iff_mem.mpr member)
    simpa [givenLevels] using empty
  · rintro ⟨rfl, rfl⟩ level _
    simp [givenLevels]

/-- What a report says in short of the files and items that it is about. -/
structure Summarizes (report : Report) : Prop where
  reaches : ∀ threshold, report.reaches threshold = true ↔
    (∃ file ∈ files, threshold.severity ≤ file.level.severity) ∨
      ∃ item ∈ items, threshold.severity ≤ item.level.severity
  exitCode : ∀ threshold, report.exitCode threshold = .breaking ↔
    (∃ file ∈ files, threshold.severity ≤ file.level.severity) ∨
      ∃ item ∈ items, threshold.severity ≤ item.level.severity
  breaking : report.summary.breaking = report.reaches .critical
  breakingEnum : report.summary.breaking = report.reaches .enumRemoved
  highest : report.summary.highest = Level.all.find? fun level =>
    files.any (·.level == level) || items.any (·.level == level)
  highestNone : report.summary.highest = none ↔ files = [] ∧ items = []
  filesAt : ∀ level, report.filesAt level = files.filter (·.level == level)
  antitone : ∀ lower higher, lower.severity ≤ higher.severity →
    report.reaches higher = true → report.reaches lower = true

theorem build_reaches_iff_severity (threshold : Level) :
    (build files items).reaches threshold = true ↔
      (∃ file ∈ files, threshold.severity ≤ file.level.severity) ∨
        ∃ item ∈ items, threshold.severity ≤ item.level.severity := by
  simp only [build_reaches_iff, Level.reaches, decide_eq_true_eq]

theorem reaches_of_severity_le {report : Report} {lower higher : Level}
    (below : lower.severity ≤ higher.severity) (reached : report.reaches higher = true) :
    report.reaches lower = true := by
  simp only [reaches, Option.any_eq_true, Level.reaches, decide_eq_true_eq] at reached ⊢
  obtain ⟨level, named, above⟩ := reached
  exact ⟨level, named, Nat.le_trans below above⟩

theorem build_summarizes : (build files items).Summarizes files items where
  reaches := build_reaches_iff_severity files items
  exitCode threshold := by
    rw [exitCode_eq_breaking_iff, build_reaches_iff_severity]
  breaking := rfl
  breakingEnum := rfl
  highest := by
    rw [highest_build]
    congr 1
    funext level
    rw [Bool.eq_iff_iff]
    simp [givenLevels]
  highestNone := highest_build_eq_none_iff files items
  filesAt := filesAt_build files items
  antitone _ _ := reaches_of_severity_le

end Report

end ReleaseDrift
