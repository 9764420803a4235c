import ReleaseDrift.Findings
import ReleaseDrift.Proofs.Report.Groups

/-!
Reports put together. A report that is merged from parts is the report of all their files and
items, so the verdict on several releases is that of their reports merged into one.
-/

namespace ReleaseDrift

namespace Report

theorem merge_build (files others : List ClassifiedFile) (items more : List ClassifiedItem) :
    (build files items).merge (build others more) = build (files ++ others) (items ++ more) := by
  refine build_congr (items ++ more) fun level => ?_
  simp only [build, List.flatMap_append, List.filter_append, filter_flatMap_byLevel]

/-- A report that was made from files and items, so that its summary is about them. -/
def IsBuilt (report : Report) : Prop := ∃ files items, report = build files items

theorem build_isBuilt (files : List ClassifiedFile) (items : List ClassifiedItem) :
    (build files items).IsBuilt := ⟨files, items, rfl⟩

theorem merge_isBuilt (left right : Report) : (left.merge right).IsBuilt := build_isBuilt _ _

namespace IsBuilt

variable {left middle right : Report}

theorem merge_assoc (builtLeft : left.IsBuilt) (builtMiddle : middle.IsBuilt)
    (builtRight : right.IsBuilt) :
    (left.merge middle).merge right = left.merge (middle.merge right) := by
  obtain ⟨files, items, rfl⟩ := builtLeft
  obtain ⟨others, more, rfl⟩ := builtMiddle
  obtain ⟨last, rest, rfl⟩ := builtRight
  simp only [merge_build, List.append_assoc]

theorem build_merge (built : right.IsBuilt) : (build [] []).merge right = right := by
  obtain ⟨files, items, rfl⟩ := built
  exact merge_build [] files [] items

theorem merge_build_nil (built : left.IsBuilt) : left.merge (build [] []) = left := by
  obtain ⟨files, items, rfl⟩ := built
  rw [merge_build, List.append_nil, List.append_nil]

theorem merge_reaches (builtLeft : left.IsBuilt) (builtRight : right.IsBuilt) (threshold : Level) :
    (left.merge right).reaches threshold =
      (left.reaches threshold || right.reaches threshold) := by
  obtain ⟨files, items, rfl⟩ := builtLeft
  obtain ⟨others, more, rfl⟩ := builtRight
  rw [merge_build, Bool.eq_iff_iff, Bool.or_eq_true, build_reaches_iff, build_reaches_iff,
    build_reaches_iff]
  simp only [List.mem_append, or_and_right, exists_or]
  exact or_or_or_comm

theorem foldl_merge_reaches {start : Report} (built : start.IsBuilt) {reports : List Report}
    (allBuilt : ∀ report ∈ reports, report.IsBuilt) (threshold : Level) :
    (reports.foldl merge start).reaches threshold =
      (start.reaches threshold || reports.any (·.reaches threshold)) := by
  induction reports generalizing start with
  | nil => simp
  | cons report reports ih =>
      obtain ⟨first, rest⟩ := List.forall_mem_cons.mp allBuilt
      rw [List.foldl_cons, ih (merge_isBuilt start report) rest, merge_reaches built first,
        List.any_cons, Bool.or_assoc]

end IsBuilt

end Report

def analyzedReports (results : List (Release × Outcome)) : List Report :=
  results.filterMap fun result => result.2.analysis?.map (·.report)

def mergedReport (results : List (Release × Outcome)) : Report :=
  (analyzedReports results).foldl Report.merge (.build [] [])

theorem any_analyzedReports (results : List (Release × Outcome)) (threshold : Level) :
    (analyzedReports results).any (·.reaches threshold) = anyReaches results threshold := by
  induction results with
  | nil => rfl
  | cons result results ih =>
      obtain ⟨release, outcome⟩ := result
      rw [anyReaches] at ih
      rw [analyzedReports] at ih
      rw [analyzedReports, anyReaches, List.filterMap_cons, List.any_cons, ← ih]
      cases outcome <;> rfl

theorem mergedReport_reaches {results : List (Release × Outcome)}
    (built : ∀ report ∈ analyzedReports results, report.IsBuilt) (threshold : Level) :
    (mergedReport results).reaches threshold = anyReaches results threshold := by
  rw [mergedReport, Report.IsBuilt.foldl_merge_reaches (Report.build_isBuilt [] []) built,
    any_analyzedReports]
  rfl

theorem isBuilt_of_mem_analyzeReleases {config : Config} {usage : Usage} {files : Files}
    {location : String} {releases : List Release} {report : Report}
    (member : report ∈ analyzedReports (config.analyzeReleases usage files location releases)) :
    report.IsBuilt := by
  obtain ⟨result, analyzed, found⟩ := List.mem_filterMap.mp member
  obtain ⟨release, _, rfl⟩ := List.mem_map.mp analyzed
  obtain ⟨analysis, outcome, rfl⟩ := Option.map_eq_some_iff.mp found
  simp only [Config.analyzeRelease] at outcome
  split at outcome
  · cases outcome
    exact Report.build_isBuilt _ _
  · contradiction

theorem analyzedReports_filter (results : List (Release × Outcome)) :
    analyzedReports (results.filter (·.2.analysis?.isSome)) = analyzedReports results := by
  rw [analyzedReports, List.filterMap_filter]
  apply List.filterMap_congr
  intro result _
  cases result.2.analysis? <;> rfl

theorem anyReaches_congr {results others : List (Release × Outcome)}
    (same : others.filter (·.2.analysis?.isSome) = results.filter (·.2.analysis?.isSome))
    (threshold : Level) : anyReaches others threshold = anyReaches results threshold := by
  rw [← any_analyzedReports, ← any_analyzedReports, ← analyzedReports_filter, same,
    analyzedReports_filter]

theorem Findings.exitCode_congr {findings : Findings} {report : Report} {threshold : Level}
    (same : findings.reaches threshold = report.reaches threshold) :
    findings.exitCode threshold = report.exitCode threshold := by
  rw [exitCode, Report.exitCode, same]

/-- Reports merge as one report of everything in them, and the verdict on several releases is that
    of the merged report, whichever releases could not be analysed. -/
theorem merge_isOneReport :
    (∀ files others items more, (Report.build files items).merge (.build others more) =
      .build (files ++ others) (items ++ more)) ∧
    (∀ left middle right : Report, left.IsBuilt → middle.IsBuilt → right.IsBuilt →
      (left.merge middle).merge right = left.merge (middle.merge right) ∧
        (Report.build [] []).merge left = left ∧ left.merge (.build [] []) = left ∧
        ∀ threshold, (left.merge right).reaches threshold = true ↔
          left.reaches threshold = true ∨ right.reaches threshold = true) ∧
    (∀ (config : Config) (usage : Usage) (files : Files) (location : String)
      (releases : List Release),
      ∀ report ∈ analyzedReports (config.analyzeReleases usage files location releases),
        report.IsBuilt) ∧
    ∀ results : List (Release × Outcome),
      (∀ report ∈ analyzedReports results, report.IsBuilt) → ∀ threshold,
        (Findings.releases results).reaches threshold = (mergedReport results).reaches threshold ∧
        (Findings.releases results).exitCode threshold = (mergedReport results).exitCode threshold ∧
        ∀ others : List (Release × Outcome),
          others.filter (·.2.analysis?.isSome) = results.filter (·.2.analysis?.isSome) →
            (Findings.releases others).reaches threshold =
                (Findings.releases results).reaches threshold ∧
              (Findings.releases others).exitCode threshold =
                (Findings.releases results).exitCode threshold := by
  refine ⟨Report.merge_build, ?_, ?_, ?_⟩
  · intro left middle right builtLeft builtMiddle builtRight
    refine ⟨builtLeft.merge_assoc builtMiddle builtRight, builtLeft.build_merge,
      builtLeft.merge_build_nil, ?_⟩
    intro threshold
    rw [builtLeft.merge_reaches builtRight, Bool.or_eq_true]
  · intro config usage files location releases report member
    exact isBuilt_of_mem_analyzeReleases member
  · intro results built threshold
    have flag : (Findings.releases results).reaches threshold =
        (mergedReport results).reaches threshold := (mergedReport_reaches built threshold).symm
    refine ⟨flag, Findings.exitCode_congr flag, ?_⟩
    intro others same
    have unchanged : (Findings.releases others).reaches threshold =
        (Findings.releases results).reaches threshold := anyReaches_congr same threshold
    refine ⟨unchanged, ?_⟩
    rw [Findings.exitCode, unchanged, ← Findings.exitCode]

theorem merge_isOneReport_of_three_releases :
    let release (newRef : String) : Release := { repo := "sdk", oldRef := "v1", newRef }
    let file : ClassifiedFile :=
      { file := "models/user.go", status := .modified, level := .warning,
        reason := Reason.modified, additions := 1, deletions := 2 }
    let item : ClassifiedItem :=
      { model := "User", name := "Owner", kind := .field, level := .critical,
        reason := "field removed from used model", detail := some "*string" }
    let first : Report := .build [file] []
    let last : Report := .build [] [item]
    let compared : List (Release × Outcome) :=
      [(release "v2", .analyzed { report := first }), (release "v4", .analyzed { report := last })]
    let results := compared ++ [(release "v3", .noDiff (.unavailable "sdk v1...v3"))]
    (first.IsBuilt ∧ last.IsBuilt ∧ ∀ report ∈ analyzedReports compared, report.IsBuilt) ∧
      results.filter (·.2.analysis?.isSome) = compared.filter (·.2.analysis?.isSome) ∧
      mergedReport compared = .build [file] [item] ∧
      (first.merge last).merge first = first.merge (last.merge first) ∧
      (Findings.releases results).exitCode .critical = .breaking := by
  intro release file item first last compared results
  obtain ⟨whole, laws, _, verdict⟩ := merge_isOneReport
  have builtFirst : first.IsBuilt := Report.build_isBuilt [file] []
  have builtLast : last.IsBuilt := Report.build_isBuilt [] [item]
  have built : ∀ report ∈ analyzedReports compared, report.IsBuilt :=
    List.forall_mem_cons.mpr ⟨builtFirst, List.forall_mem_singleton.mpr builtLast⟩
  have merged : mergedReport compared = .build [file] [item] := whole [file] [] [] [item]
  have kept : results.filter (·.2.analysis?.isSome) = compared.filter (·.2.analysis?.isSome) := rfl
  obtain ⟨_, failed, untouched⟩ := verdict compared built .critical
  refine ⟨⟨builtFirst, builtLast, built⟩, kept, merged,
    (laws first last first builtFirst builtLast builtFirst).1, ?_⟩
  rw [(untouched results kept).2, failed, merged]
  rfl

end ReleaseDrift
