import ReleaseDrift.Proofs.Report.Listing
import ReleaseDrift.Proofs.Report.Merge

/-!
Reports as text. Every file of a level that is listed is shown or counted as one more, the quiet
levels are counted, and every item stands in the text once, under its level.
-/

namespace ReleaseDrift

def quietText (level : Level) (count : Nat) : String :=
  if count = 0 then ""
  else level.name ++ ": " ++ toString count ++ " file" ++ plural count ++ "\n"

def itemsText (items : List ClassifiedItem) : String :=
  if items = [] then "" else "\nchanges:\n" ++ String.join (items.map (·.text))

def verdictText (report : Report) (failOn : Level) : String :=
  toString report.summary.totalFiles ++ " file" ++ plural report.summary.totalFiles ++ ", " ++
    toString report.summary.totalItems ++ " item" ++ plural report.summary.totalItems ++ ": " ++
    (if report.reaches failOn then "BREAKING" else "OK") ++
    (match report.summary.highest with
      | some level => " (highest: " ++ level.name ++ ")\n"
      | none => "\n")

namespace Report

variable (files : List ClassifiedFile) (items : List ClassifiedItem) (limit : Option Nat)

/-- How the files and items of a report are laid out: the files level by level, the items in
    the order of their levels. -/
structure Layout where
  listings : List Listing
  ordered : List ClassifiedItem
  levels : listings.map (·.level) =
    Level.all.filter fun level => !level.isQuiet && files.any (·.level == level)
  complete : ∀ listing ∈ listings, listing.files = files.filter (·.level == listing.level)
  within : ∀ listing ∈ listings, listing.IsWithin limit
  once : ordered.Perm items
  sorted : ordered.Pairwise (·.level.rank ≤ ·.level.rank)
  stable : ∀ level, ordered.filter (·.level == level) = items.filter (·.level == level)

variable {files items limit}

def Layout.text (layout : Layout files items limit) (failOn : Level) : String :=
  String.join (layout.listings.map (·.text)) ++
    String.join ([Level.metadata, .noise].map fun level =>
      quietText level (files.filter (·.level == level)).length) ++
    itemsText layout.ordered ++ "\n" ++ verdictText (build files items) failOn

section Items

variable (report : Report)

theorem itemsByLevel_perm : report.itemsByLevel.Perm report.items := List.mergeSort_perm _ _

theorem itemsByLevel_sorted :
    report.itemsByLevel.Pairwise (·.level.rank ≤ ·.level.rank) := by
  have sorted := @List.pairwise_mergeSort ClassifiedItem
    (fun left right => left.level.rank ≤ right.level.rank) (by grind) (by grind) report.items
  exact sorted.imp of_decide_eq_true

theorem filter_itemsByLevel (level : Level) :
    report.itemsByLevel.filter (·.level == level) = report.items.filter (·.level == level) := by
  have ordered : (report.items.filter (·.level == level)).Pairwise
      fun left right => decide (left.level.rank ≤ right.level.rank) = true := by
    refine List.pairwise_of_forall_mem_list fun left first right last => decide_eq_true ?_
    have same := beq_iff_eq.mp (List.mem_filter.mp first).2
    exact Nat.le_of_eq (same.trans (beq_iff_eq.mp (List.mem_filter.mp last).2).symm ▸ rfl)
  have inside := List.sublist_mergeSort (by grind) (by grind) ordered List.filter_sublist
  have kept := inside.filter (·.level == level)
  rw [List.filter_filter, funext fun item : ClassifiedItem => Bool.and_self (item.level == level)]
    at kept
  exact (kept.eq_of_length (report.itemsByLevel_perm.filter _).length_eq.symm).symm

end Items

variable (files items limit)

def listed (report : Report) : List (Level × List ClassifiedFile) :=
  report.levels.filter fun entry => !entry.1.isQuiet

theorem map_fst_listed :
    (build files items).listed.map Prod.fst =
      Level.all.filter fun level => !level.isQuiet && files.any (·.level == level) := by
  have filled (level : Level) :
      (files.filter (·.level == level)).isEmpty = !files.any (·.level == level) := by
    rw [Bool.eq_iff_iff]
    simp
  rw [listed, build, byLevel_eq, Level.mapOf, List.filter_filter, List.filter_map, List.map_map]
  simp [Function.comp_def, filled]

theorem mem_listed_iff (level : Level) (group : List ClassifiedFile) :
    (level, group) ∈ (build files items).listed ↔
      level.isQuiet = false ∧ group ≠ [] ∧ group = files.filter (·.level == level) := by
  simp only [listed, build, byLevel_eq, Level.mapOf, List.mem_filter, List.mem_map]
  constructor
  · rintro ⟨⟨⟨other, _, same⟩, filled⟩, loud⟩
    cases same
    exact ⟨by simpa using loud, by simpa using filled, rfl⟩
  · rintro ⟨loud, filled, rfl⟩
    exact ⟨⟨⟨level, level.mem_all, rfl⟩, by simpa using filled⟩, by simpa using loud⟩

def layout : Layout files items limit where
  listings := (build files items).listed.map fun entry => .upTo limit entry.1 entry.2
  ordered := (build files items).itemsByLevel
  levels := by
    rw [← map_fst_listed files items, List.map_map]
    exact List.map_congr_left fun entry _ => Listing.level_upTo limit entry.1 entry.2
  complete := by
    intro listing member
    obtain ⟨entry, listed, rfl⟩ := List.mem_map.mp member
    rw [Listing.files_upTo, Listing.level_upTo]
    exact ((mem_listed_iff files items entry.1 entry.2).mp listed).2.2
  within := by
    intro listing member
    obtain ⟨entry, _, rfl⟩ := List.mem_map.mp member
    exact Listing.isWithin_upTo limit entry.1 entry.2
  once := (build files items).itemsByLevel_perm
  sorted := (build files items).itemsByLevel_sorted
  stable := (build files items).filter_itemsByLevel

end Report

namespace Formatter

section Report

variable (formatter : Formatter) (report : Report) (failOn : Level)

def writeEntry (entry : Level × List ClassifiedFile) : Formatter :=
  formatter.writeLevel entry.1 entry.2

theorem asked_writeEntry (entry : Level × List ClassifiedFile) :
    (formatter.writeEntry entry).asked = formatter.asked :=
  formatter.asked_writeLevel entry.1 entry.2

def writeListed : Formatter := report.listed.foldl writeEntry formatter

theorem foldl_levels :
    report.levels.foldl (fun formatter entry =>
      if entry.1.isQuiet then formatter else formatter.writeLevel entry.1 entry.2) formatter =
        formatter.writeListed report := by
  rw [writeListed, Report.listed, List.foldl_filter]
  congr
  funext formatter entry
  rw [writeEntry]
  cases entry.1.isQuiet <;> rfl

theorem asked_writeListed : (formatter.writeListed report).asked = formatter.asked :=
  formatter.asked_foldl asked_writeEntry report.listed

theorem truncated_writeListed_iff :
    (formatter.writeListed report).truncated = true ↔ formatter.truncated = true ∨
      ∃ entry ∈ report.listed, ∃ most, formatter.limit = some most ∧ most < entry.2.length :=
  formatter.truncated_foldl_iff asked_writeEntry report.listed
    (fun limit entry => ∃ most, limit = some most ∧ most < entry.2.length)
    fun formatter entry => formatter.truncated_writeLevel_iff entry.1 entry.2

def writeRest : Formatter :=
  Level.quiet.foldl
    (fun formatter level => formatter.writeQuiet level (report.filesAt level).length) formatter
    |>.writeItems report |>.writeLine "" |>.writeSummary report failOn

theorem writeReport_eq :
    formatter.writeReport report failOn =
      (formatter.writeListed report).writeRest report failOn := by
  rw [writeReport, foldl_levels]
  rfl

theorem frame_writeRest : (formatter.writeRest report failOn).frame = formatter.frame := by
  rw [writeRest, frame_writeSummary, frame_writeLine, frame_writeItems]
  exact formatter.frame_foldl (fun formatter level => formatter.frame_writeQuiet level _) _

theorem asked_writeReport : (formatter.writeReport report failOn).asked = formatter.asked := by
  rw [writeReport_eq, asked_eq_of_frame_eq (frame_writeRest _ report failOn), asked_writeListed]

theorem truncated_writeReport_iff :
    (formatter.writeReport report failOn).truncated = true ↔ formatter.truncated = true ∨
      ∃ entry ∈ report.listed, ∃ most, formatter.limit = some most ∧ most < entry.2.length := by
  rw [writeReport_eq, (frame_eq_iff.mp (frame_writeRest _ report failOn)).2.2,
    truncated_writeListed_iff]

end Report

section Plain

variable {formatter : Formatter} (noColour : formatter.colour = false) (report : Report)

theorem out_writeQuiet (formatter : Formatter) (level : Level) (count : Nat) :
    (formatter.writeQuiet level count).out = formatter.out ++ quietText level count := by
  rw [writeQuiet, quietText]
  rcases Nat.eq_zero_or_pos count with rfl | some
  · simp
  · rw [if_pos some, if_neg (Nat.ne_of_gt some), writeLine, out_write]

include noColour

theorem out_writeItems :
    (formatter.writeItems report).out = formatter.out ++ itemsText report.itemsByLevel := by
  have count := report.itemsByLevel_perm.length_eq
  rw [writeItems, itemsText]
  by_cases none : report.items = []
  · have nothing : report.itemsByLevel = [] := by simpa [none] using count
    simp [none, nothing]
  · have something : report.itemsByLevel ≠ [] := by
      intro nothing
      rw [nothing] at count
      exact none (List.eq_nil_of_length_eq_zero count.symm)
    have written := out_foldl (formatter.writeLine "" |>.writeLine "changes:")
      (fun formatter item => asked_eq_of_frame_eq (formatter.frame_writeItem item))
      report.itemsByLevel (fun _ item => item.text)
      (fun _ item noColour => out_writeItem noColour item) noColour
    rw [if_neg (by simpa using none), if_neg something, written]
    simp [writeLine, String.append_assoc]

theorem out_writeSummary (failOn : Level) :
    (formatter.writeSummary report failOn).out = formatter.out ++ verdictText report failOn := by
  rw [writeSummary, verdictText]
  cases report.reaches failOn <;> cases report.summary.highest <;>
    simp [writeLine, setStyle_of_noColour, reset_of_noColour, noColour, String.append_assoc]

theorem out_writeListed :
    (formatter.writeListed report).out = formatter.out ++
      String.join (report.listed.map fun entry =>
        (Listing.upTo formatter.limit entry.1 entry.2).text) :=
  out_foldl formatter asked_writeEntry report.listed
    (fun limit entry => (Listing.upTo limit entry.1 entry.2).text)
    (fun _ entry noColour => out_writeLevel noColour entry.1 entry.2) noColour

theorem out_writeRest (failOn : Level) :
    (formatter.writeRest report failOn).out = formatter.out ++
      (String.join (Level.quiet.map fun level => quietText level (report.filesAt level).length) ++
        itemsText report.itemsByLevel ++ "\n" ++ verdictText report failOn) := by
  have keeps (formatter : Formatter) (level : Level) :=
    asked_eq_of_frame_eq (formatter.frame_writeQuiet level (report.filesAt level).length)
  have counted := out_foldl formatter keeps Level.quiet
    (fun _ level => quietText level (report.filesAt level).length)
    (fun formatter level _ => formatter.out_writeQuiet level _) noColour
  have plain := (asked_eq_iff.mp (formatter.asked_foldl keeps Level.quiet)).1.trans noColour
  have stillPlain := (frame_eq_iff.mp (frame_writeItems _ report)).1.trans plain
  rw [writeRest, out_writeSummary, writeLine, out_write, out_writeItems plain, counted]
  · simp only [String.append_assoc, String.empty_append]
  · exact stillPlain

theorem out_writeReport (failOn : Level) (files : List ClassifiedFile)
    (items : List ClassifiedItem) :
    (formatter.writeReport (.build files items) failOn).out =
      formatter.out ++ (Report.layout files items formatter.limit).text failOn := by
  have plain :=
    (asked_eq_iff.mp (formatter.asked_writeListed (.build files items))).1.trans noColour
  rw [writeReport_eq, out_writeRest plain, out_writeListed noColour, Report.Layout.text]
  simp only [Report.layout, Report.filesAt_build, List.map_map, Function.comp_def,
    String.append_assoc, Level.quiet]

end Plain

def writeNext (formatter : Formatter) (entry : Report × Level) : Formatter :=
  formatter.writeReport entry.1 entry.2

theorem asked_writeNext (formatter : Formatter) (entry : Report × Level) :
    (formatter.writeNext entry).asked = formatter.asked :=
  formatter.asked_writeReport entry.1 entry.2

def writeReports (formatter : Formatter) (reports : List (Report × Level)) : Formatter :=
  reports.foldl writeNext formatter

/-- Once something has been left out, it stays so whatever is written after it. -/
theorem truncated_writeReports_iff (formatter : Formatter) (reports : List (Report × Level)) :
    (formatter.writeReports reports).truncated = true ↔ formatter.truncated = true ∨
      ∃ entry ∈ reports, ∃ group ∈ entry.1.listed, ∃ most,
        formatter.limit = some most ∧ most < group.2.length :=
  formatter.truncated_foldl_iff asked_writeNext reports
    (fun limit entry => ∃ group ∈ entry.1.listed, ∃ most,
      limit = some most ∧ most < group.2.length)
    fun formatter entry => formatter.truncated_writeReport_iff entry.1 entry.2

end Formatter

theorem Report.exists_listed_iff_of_isBuilt {report : Report} (built : report.IsBuilt)
    (limit : Option Nat) :
    (∃ entry ∈ report.listed, ∃ most, limit = some most ∧ most < entry.2.length) ↔
      ∃ level : Level, level.isQuiet = false ∧
        ∃ most, limit = some most ∧ most < (report.filesAt level).length := by
  obtain ⟨files, items, rfl⟩ := built
  constructor
  · rintro ⟨⟨level, group⟩, listed, most, limited, cut⟩
    obtain ⟨loud, _, rfl⟩ := (mem_listed_iff files items level group).mp listed
    exact ⟨level, loud, most, limited, by rwa [filesAt_build]⟩
  · rintro ⟨level, loud, most, limited, cut⟩
    rw [filesAt_build] at cut
    have filled : files.filter (·.level == level) ≠ [] :=
      List.ne_nil_of_length_pos (Nat.zero_lt_of_lt cut)
    exact ⟨(level, _), (mem_listed_iff files items level _).mpr ⟨loud, filled, rfl⟩, most, limited,
      cut⟩

/-- The text of a report loses nothing without a word: the files of every level that is listed
    are shown or counted as more, the quiet levels are counted, and each item is there once. And
    what has been written tells whether any file of a listed level was left out of it. -/
theorem page_losesNothing (limit : Option Nat) :
    (∀ files items, ∃ layout : Report.Layout files items limit, ∀ failOn,
      ((Report.build files items).page limit failOn).plain = layout.text failOn ∧
        ∀ out truncated, (Formatter.writeReport ⟨false, limit, out, truncated⟩
          (.build files items) failOn).out = out ++ layout.text failOn) ∧
    ∀ (colour : Bool) (reports : List (Report × Level)), (∀ entry ∈ reports, entry.1.IsBuilt) →
      ((Formatter.writeReports { colour, limit } reports).truncated = true ↔
        ∃ entry ∈ reports, ∃ level : Level, level.isQuiet = false ∧
          ∃ most, limit = some most ∧ most < (entry.1.filesAt level).length) := by
  constructor
  · intro files items
    refine ⟨Report.layout files items limit, fun failOn => ⟨?_, fun out truncated => ?_⟩⟩
    · have noColour : ({ colour := false, limit } : Formatter).colour = false := rfl
      have written := Formatter.out_writeReport noColour failOn files items
      rwa [String.empty_append] at written
    · have noColour : (⟨false, limit, out, truncated⟩ : Formatter).colour = false := rfl
      exact Formatter.out_writeReport noColour failOn files items
  · intro colour reports built
    have cut (entry : Report × Level) (member : entry ∈ reports) :=
      Report.exists_listed_iff_of_isBuilt (built entry member) limit
    rw [Formatter.truncated_writeReports_iff]
    constructor
    · rintro (none | ⟨entry, member, left⟩)
      · contradiction
      · exact ⟨entry, member, (cut entry member).mp left⟩
    · rintro ⟨entry, member, left⟩
      exact Or.inr ⟨entry, member, (cut entry member).mpr left⟩

theorem page_losesNothing_of_two_files :
    let file (name : String) : ClassifiedFile :=
      { file := name, status := .modified, level := .warning, reason := Reason.modified,
        additions := 1, deletions := 2 }
    let full : Report := .build [file "models/user.go", file "models/group.go"] []
    let reports : List (Report × Level) := [(full, .critical), (.build [] [], .warning)]
    let after (limit : Nat) : Formatter :=
      Formatter.writeReports { colour := false, limit := some limit } reports
    (∀ entry ∈ reports, entry.1.IsBuilt) ∧ (after 1).truncated = true ∧
      (after 2).truncated = false := by
  intro file full reports after
  have built : ∀ entry ∈ reports, entry.1.IsBuilt :=
    List.forall_mem_cons.mpr
      ⟨Report.build_isBuilt _ _, List.forall_mem_singleton.mpr (Report.build_isBuilt [] [])⟩
  refine ⟨built, ?_, ?_⟩
  · rw [(page_losesNothing (some 1)).2 false reports built]
    exact ⟨(full, .critical), List.mem_cons_self, .warning, rfl, 1, rfl, by decide⟩
  · decide +kernel

end ReleaseDrift
