import ReleaseDrift.Findings
import ReleaseDrift.Proofs.Report.Terminal

/-!
Colour decorates what is found and tells nothing of its own. A formatter with colour that writes
the same as one without shows the same text and leaves out the same. Every style that it sets is
taken back before the next one is set.
-/

namespace ReleaseDrift

@[simp] theorem hasNoEscape_append (left right : String) :
    HasNoEscape (left ++ right) ↔ HasNoEscape left ∧ HasNoEscape right := by
  simp [HasNoEscape]

@[simp] theorem hasNoEscape_natRepr (count : Nat) : HasNoEscape count.repr := by
  rw [HasNoEscape, Nat.repr_eq_ofList_toDigits, String.toList_ofList]
  intro escape
  exact absurd (Nat.isDigit_of_mem_toDigits (by decide) (by decide) escape) (by decide)

@[simp] theorem hasNoEscape_plural (count : Nat) : HasNoEscape (plural count) := by
  rw [plural]
  split <;> decide

@[simp] theorem Level.hasNoEscape_name (level : Level) : HasNoEscape level.name := by
  cases level <;> decide

@[simp] theorem Level.hasNoEscape_column (level : Level) : HasNoEscape level.column := by
  cases level <;> decide

@[simp] theorem FileStatus.hasNoEscape_name (status : FileStatus) : HasNoEscape status.name := by
  cases status <;> decide

@[simp] theorem ItemKind.hasNoEscape_label (kind : ItemKind) : HasNoEscape kind.label := by
  cases kind <;> decide

theorem hasNoEscape_intercalate {separator : String} (between : HasNoEscape separator)
    {parts : List String} (clean : ∀ part ∈ parts, HasNoEscape part) :
    HasNoEscape (separator.intercalate parts) := by
  induction parts with
  | nil => exact List.not_mem_nil
  | cons part parts ih =>
      rw [List.forall_mem_cons] at clean
      cases parts with
      | nil => simpa using clean.1
      | cons next parts =>
          rw [String.intercalate_cons_cons, hasNoEscape_append, hasNoEscape_append]
          exact ⟨⟨clean.1, between⟩, ih clean.2⟩

@[simp] theorem PropertyChangeKind.hasNoEscape_label (kind : PropertyChangeKind) :
    HasNoEscape kind.label := by
  cases kind <;> decide

@[simp] theorem SchemaChange.hasNoEscape_summary (change : SchemaChange) :
    HasNoEscape change.summary := by
  rw [summary]
  split
  · decide
  · refine hasNoEscape_intercalate (by decide) ?_
    intro part member
    obtain ⟨⟨count, kind⟩, _, rfl⟩ := List.mem_map.mp member
    simp +decide

/-! The texts that a writer takes over from what it writes about. -/

def ClassifiedFile.texts (file : ClassifiedFile) : List String := [file.file, file.reason]

def ClassifiedItem.texts (item : ClassifiedItem) : List String :=
  [item.model, item.name, item.reason] ++ item.detail.toList

def Report.texts (report : Report) : List String :=
  (report.levels.flatMap Prod.snd).flatMap (·.texts) ++ report.items.flatMap (·.texts)

def Analysis.texts (analysis : Analysis) : List String :=
  analysis.compareUrl.toList ++ analysis.report.texts

def SchemaChange.texts (change : SchemaChange) : List String := [change.schema, change.model]

def SchemaAnalysis.texts (analysis : SchemaAnalysis) : List String :=
  analysis.relevant.flatMap (·.texts) ++ analysis.report.texts

def Release.texts (release : Release) : List String :=
  [release.repo, release.oldRef, release.newRef]

def Outcome.texts : Outcome → List String
  | analyzed analysis => analysis.texts
  | noDiff failure => [failure.message]

def Findings.texts : Findings → List String
  | comparison analysis => analysis.texts
  | releases results => results.flatMap fun result => result.1.texts ++ result.2.texts
  | schemas analysis => analysis.texts

namespace Formatter

/-- What a formatter with colour has written beside what one without has: nothing else is shown or
    left out, each setting is taken back before the next one, and a terminal is left as it was
    found, so that whatever follows is read as if nothing had been written before it. -/
structure Decorates (coloured plain : Formatter) : Prop where
  colour : coloured.colour = true
  noColour : plain.colour = false
  limit : coloured.limit = plain.limit
  truncated : coloured.truncated = plain.truncated
  text : erased coloured.out = plain.out
  takenBack : IsDecorated (signals coloured.out)
  ending : ({} : Style).after (signals coloured.out) = {}
  separate : ∀ rest, signals (coloured.out ++ rest) = signals coloured.out ++ signals rest

namespace Decorates

theorem start (limit : Option Nat) :
    Decorates { colour := true, limit } { colour := false, limit } where
  colour := rfl
  noColour := rfl
  limit := rfl
  truncated := rfl
  text := rfl
  takenBack := .nothing
  ending := rfl
  separate rest := by
    rw [String.empty_append, signals_empty, List.nil_append]

theorem ite {coloured plain otherColoured otherPlain : Formatter} (condition : Prop)
    [Decidable condition] (holds : condition → coloured.Decorates plain)
    (fails : ¬condition → otherColoured.Decorates otherPlain) :
    (if condition then coloured else otherColoured).Decorates
      (if condition then plain else otherPlain) := by
  split
  · exact holds ‹_›
  · exact fails ‹_›

variable {coloured plain : Formatter} (decorates : coloured.Decorates plain)

include decorates

theorem append {code text : String} (read : List Signal)
    (reads : ∀ rest, signals (code ++ rest) = read ++ signals rest) (decorated : IsDecorated read)
    (letters : read.filterMap (·.letter?) = text.toList) :
    (coloured.write code).Decorates (plain.write text) := by
  have whole (rest : String) :
      signals (coloured.out ++ code ++ rest) = signals coloured.out ++ read ++ signals rest := by
    rw [String.append_assoc, decorates.separate, reads, List.append_assoc]
  have done : signals (coloured.out ++ code) = signals coloured.out ++ read := by
    have ended := whole ""
    rwa [String.append_empty, signals_empty, List.append_nil] at ended
  have takenBack : IsDecorated (signals (coloured.out ++ code)) := by
    rw [done]
    exact decorates.takenBack.append decorated
  have shown := decorates.text
  rw [erased] at shown
  exact {
    colour := decorates.colour
    noColour := decorates.noColour
    limit := decorates.limit
    truncated := decorates.truncated
    text := by
      simp only [write, erased, done, List.filterMap_append, letters, String.ofList_append, shown,
        String.ofList_toList]
    takenBack
    ending := takenBack.after_eq
    separate := fun rest => (whole rest).trans (by rw [← done, write]) }

theorem write (text : String) (clean : HasNoEscape text) :
    (coloured.write text).Decorates (plain.write text) :=
  decorates.append _ (signals_append_of_hasNoEscape clean) (.text text.toList)
    (Signal.letters_shown text.toList)

theorem writeLine (text : String) (clean : HasNoEscape text) :
    (coloured.writeLine text).Decorates (plain.writeLine text) :=
  decorates.write (text ++ "\n") (hasNoEscape_append text "\n" |>.mpr ⟨clean, by decide⟩)

theorem styled (style : Style) (text : String) (clean : HasNoEscape text) :
    (((coloured.setStyle style).write text).reset).Decorates
      (((plain.setStyle style).write text).reset) := by
  have sent : ((coloured.setStyle style).write text).reset =
      coloured.write (.ofList style.codes ++ text ++ .ofList Style.reset) := by
    simp [setStyle, reset, Formatter.write, decorates.colour, String.append_assoc]
  have kept : ((plain.setStyle style).write text).reset = plain.write text := by
    simp [setStyle, reset, Formatter.write, decorates.noColour]
  rw [sent, kept]
  refine decorates.append
    (style.settings.map .setting ++ text.toList.map .shown ++ [.setting ['0']]) ?_ ?_ ?_
  · intro rest
    rw [signals_append_of_styled style clean, List.append_assoc _ [_], List.singleton_append]
  · exact .styled style text.toList .nothing
  · simp only [List.filterMap_append, Signal.letters_settings, Signal.letters_shown,
      List.nil_append]
    exact List.append_nil _

theorem truncate : coloured.truncate.Decorates plain.truncate :=
  { decorates with truncated := rfl }

theorem foldl {Entry : Type} (write : Formatter → Entry → Formatter) {entries : List Entry}
    (each : ∀ entry ∈ entries, ∀ {coloured plain : Formatter}, coloured.Decorates plain →
      (write coloured entry).Decorates (write plain entry)) :
    (entries.foldl write coloured).Decorates (entries.foldl write plain) := by
  induction entries generalizing coloured plain with
  | nil => exact decorates
  | cons entry entries ih =>
      rw [List.forall_mem_cons] at each
      exact ih (each.1 decorates) each.2

theorem writeFile {file : ClassifiedFile} (clean : ∀ text ∈ file.texts, HasNoEscape text) :
    (coloured.writeFile file).Decorates (plain.writeFile file) := by
  have both : HasNoEscape file.file ∧ HasNoEscape file.reason := by
    simpa [ClassifiedFile.texts] using clean
  have indented := decorates.write "  " (by decide)
  have named := indented.styled .path file.file both.1
  exact named.writeLine _ (by simp +decide [both.2])

theorem writeFiles {files : List ClassifiedFile}
    (clean : ∀ file ∈ files, ∀ text ∈ file.texts, HasNoEscape text) (total shown : Nat) :
    (coloured.writeFiles total shown files).Decorates (plain.writeFiles total shown files) := by
  induction files generalizing coloured plain shown with
  | nil => exact decorates
  | cons file files ih =>
      rw [List.forall_mem_cons] at clean
      have reached : coloured.limit.filter (· ≤ shown) = plain.limit.filter (· ≤ shown) := by
        rw [decorates.limit]
      rw [Formatter.writeFiles, Formatter.writeFiles, reached]
      cases plain.limit.filter (· ≤ shown) with
      | some limit =>
          have counted : HasNoEscape ("  ... " ++ toString (total - limit) ++ " more") := by
            simp +decide
          exact decorates.truncate.writeLine _ counted
      | none => exact ih (decorates.writeFile clean.1) clean.2 (shown + 1)

theorem writeLevel (level : Level) {files : List ClassifiedFile}
    (clean : ∀ file ∈ files, ∀ text ∈ file.texts, HasNoEscape text) :
    (coloured.writeLevel level files).Decorates (plain.writeLevel level files) := by
  have named := decorates.styled (.ofLevel level) level.name level.hasNoEscape_name
  have headed := named.writeLine (" (" ++ toString files.length ++ ")") (by simp +decide)
  exact headed.writeFiles clean files.length 0

theorem writeQuiet (level : Level) (count : Nat) :
    (coloured.writeQuiet level count).Decorates (plain.writeQuiet level count) := by
  rw [Formatter.writeQuiet, Formatter.writeQuiet]
  split
  · exact decorates.writeLine _ (by simp +decide)
  · exact decorates

theorem writeItem {item : ClassifiedItem} (clean : ∀ text ∈ item.texts, HasNoEscape text) :
    (coloured.writeItem item).Decorates (plain.writeItem item) := by
  simp only [ClassifiedItem.texts, List.forall_mem_append, List.forall_mem_cons] at clean
  obtain ⟨⟨model, name, reason, _⟩, detail⟩ := clean
  have indented := decorates.write "  " (by decide)
  have tagged := indented.styled (.ofLevel item.level) _ item.level.hasNoEscape_column
  have named := ite (item.name = item.model)
    (fun _ => tagged.write (" " ++ item.model) (by simp +decide [model]))
    (fun _ => tagged.write (" " ++ item.model ++ "." ++ item.name)
      (by simp +decide [model, name]))
  have reasoned := named.write (" (" ++ item.kind.label ++ "): " ++ item.reason)
    (by simp +decide [reason])
  rw [Formatter.writeItem, Formatter.writeItem]
  cases shown : item.detail with
  | none => exact reasoned.writeLine "" (by decide)
  | some text =>
      have spaced := reasoned.write "  " (by decide)
      have detailed := spaced.styled .detail text (detail text (by simp [shown]))
      exact detailed.writeLine "" (by decide)

theorem writeItems {report : Report}
    (clean : ∀ item ∈ report.items, ∀ text ∈ item.texts, HasNoEscape text) :
    (coloured.writeItems report).Decorates (plain.writeItems report) := by
  rw [Formatter.writeItems, Formatter.writeItems]
  split
  · exact decorates
  · have blank := decorates.writeLine "" (by decide)
    have headed := blank.writeLine "changes:" (by decide)
    refine headed.foldl Formatter.writeItem fun item member _ _ decorates => ?_
    exact decorates.writeItem (clean item (List.mem_mergeSort.mp member))

theorem writeSummary (report : Report) (failOn : Level) :
    (coloured.writeSummary report failOn).Decorates (plain.writeSummary report failOn) := by
  have counted := decorates.write (
    toString report.summary.totalFiles ++ " file" ++ plural report.summary.totalFiles ++ ", " ++
      toString report.summary.totalItems ++ " item" ++ plural report.summary.totalItems ++ ": ")
    (by simp +decide)
  have verdict := ite (report.reaches failOn)
    (fun _ => counted.styled .breaking "BREAKING" (by decide))
    (fun _ => counted.styled .ok "OK" (by decide))
  rw [← apply_ite reset, ← apply_ite reset] at verdict
  rw [Formatter.writeSummary, Formatter.writeSummary]
  cases report.summary.highest with
  | none => exact verdict.writeLine "" (by decide)
  | some level =>
      have named : HasNoEscape (" (highest: " ++ level.name ++ ")") := by simp +decide
      exact verdict.writeLine _ named

theorem writeReport {report : Report} (clean : ∀ text ∈ report.texts, HasNoEscape text)
    (failOn : Level) :
    (coloured.writeReport report failOn).Decorates (plain.writeReport report failOn) := by
  rw [Report.texts, List.forall_mem_append, List.forall_mem_flatMap, List.forall_mem_flatMap,
    List.forall_mem_flatMap] at clean
  obtain ⟨files, items⟩ := clean
  have listed := decorates.foldl
    (fun formatter entry =>
      if entry.1.isQuiet then formatter else formatter.writeLevel entry.1 entry.2)
    fun entry member _ _ decorates => ite _ (fun _ => decorates)
      fun _ => decorates.writeLevel entry.1 (files entry member)
  have counted := listed.foldl
    (fun formatter level => formatter.writeQuiet level (report.filesAt level).length)
    fun level (_ : level ∈ Level.quiet) _ _ decorates => decorates.writeQuiet level _
  have changed := counted.writeItems items
  exact (changed.writeLine "" (by decide)).writeSummary report failOn

theorem writeAnalysis {analysis : Analysis} (clean : ∀ text ∈ analysis.texts, HasNoEscape text)
    (failOn : Level) :
    (coloured.writeAnalysis analysis failOn).Decorates (plain.writeAnalysis analysis failOn) := by
  rw [Analysis.texts, List.forall_mem_append] at clean
  have removed {coloured plain : Formatter} (decorates : coloured.Decorates plain) :=
    ite analysis.removedModels.isEmpty (fun _ => decorates) (fun _ => decorates.writeLine
      ("removed models: " ++ toString analysis.removedModels.length) (by simp +decide))
  rw [Formatter.writeAnalysis, Formatter.writeAnalysis]
  cases compared : analysis.compareUrl with
  | none => exact (removed decorates).writeReport clean.2 failOn
  | some url =>
      have shown : HasNoEscape
          ("compare: " ++ url ++ " (" ++ toString analysis.commitCount ++ " commits)") := by
        have url : HasNoEscape url := clean.1 url (by simp [compared])
        simp +decide [url]
      exact (removed (decorates.writeLine _ shown)).writeReport clean.2 failOn

theorem writeSchemaChange {change : SchemaChange}
    (clean : ∀ text ∈ change.texts, HasNoEscape text) :
    (coloured.writeSchemaChange change).Decorates (plain.writeSchemaChange change) := by
  have both : HasNoEscape change.schema ∧ HasNoEscape change.model := by
    simpa [SchemaChange.texts] using clean
  exact (decorates.styled .heading _ both.2).writeLine _ (by simp +decide [both.1])

theorem writeSchemaAnalysis {analysis : SchemaAnalysis}
    (clean : ∀ text ∈ analysis.texts, HasNoEscape text) (failOn : Level) :
    (coloured.writeSchemaAnalysis analysis failOn).Decorates
      (plain.writeSchemaAnalysis analysis failOn) := by
  rw [SchemaAnalysis.texts, List.forall_mem_append, List.forall_mem_flatMap] at clean
  have counted := decorates.writeLine (
    "schemas: " ++ toString analysis.comparison.stats.schemasCompared ++ " compared, " ++
      toString analysis.comparison.stats.schemasWithChanges ++ " with changes, " ++
      toString analysis.comparison.addedSchemas.length ++ " added, " ++
      toString analysis.comparison.removedSchemas.length ++ " removed") (by simp +decide)
  have changed := counted.foldl Formatter.writeSchemaChange
    fun change member _ _ decorates => decorates.writeSchemaChange (clean.1 change member)
  exact changed.writeReport clean.2 failOn

theorem writeRelease {release : Release} {outcome : Outcome}
    (named : ∀ text ∈ release.texts, HasNoEscape text)
    (told : ∀ text ∈ outcome.texts, HasNoEscape text) (failOn : Level) :
    (coloured.writeRelease release outcome failOn).Decorates
      (plain.writeRelease release outcome failOn) := by
  simp only [Release.texts, List.forall_mem_cons] at named
  have title : HasNoEscape ("== " ++ release.display ++ " ==" ++ "\n") := by
    simp +decide [Release.display, Release.pair, named]
  have headed := decorates.styled .heading _ title
  cases outcome with
  | analyzed analysis => exact headed.writeAnalysis told failOn
  | noDiff failure =>
      exact headed.writeLine _ (told failure.message (List.mem_singleton.mpr rfl))

theorem write_findings {findings : Findings} (clean : ∀ text ∈ findings.texts, HasNoEscape text)
    (failOn : Level) :
    (findings.write coloured failOn).Decorates (findings.write plain failOn) := by
  cases findings with
  | comparison analysis => exact decorates.writeAnalysis clean failOn
  | schemas analysis => exact decorates.writeSchemaAnalysis clean failOn
  | releases results =>
      rw [Findings.texts, List.forall_mem_flatMap] at clean
      refine decorates.foldl
        (fun formatter (result : Release × Outcome) =>
          formatter.writeRelease result.1 result.2 failOn)
        fun result member _ _ decorates => ?_
      obtain ⟨named, told⟩ := List.forall_mem_append.mp (clean result member)
      exact decorates.writeRelease named told failOn

end Decorates

end Formatter

/-- Colour adds nothing: a formatter with colour has shown and left out what one without has, with
    every style taken back, and this is so again after the same findings are written to both. -/
theorem colour_isDecoration (findings : Findings) (failOn : Level)
    (clean : ∀ text ∈ findings.texts, HasNoEscape text) :
    (∀ limit, (findings.write { colour := true, limit } failOn).Decorates
      (findings.write { colour := false, limit } failOn)) ∧
    ∀ coloured plain : Formatter, coloured.Decorates plain →
      (findings.write coloured failOn).Decorates (findings.write plain failOn) := by
  constructor
  · intro limit
    exact (Formatter.Decorates.start limit).write_findings clean failOn
  · intro coloured plain decorates
    exact decorates.write_findings clean failOn

theorem colour_isDecoration_of_two_releases :
    let release (newRef : String) : Release := { repo := "sdk", oldRef := "v1", newRef }
    let file : ClassifiedFile :=
      { file := "models/user.go", status := .removed, level := .critical, reason := Reason.removed,
        additions := 0, deletions := 2 }
    let item : ClassifiedItem :=
      { model := "User", name := "Owner", kind := .field, level := .critical,
        reason := "field removed from used model", detail := some "*string" }
    let findings : Findings := .releases
      [(release "v2", .analyzed { report := .build [file] [item] }),
        (release "v3", .noDiff (.unavailable "sdk v1...v3"))]
    let coloured : Formatter := findings.write { colour := true, limit := some 0 } .warning
    let plain : Formatter := findings.write { colour := false, limit := some 0 } .warning
    (∀ text ∈ findings.texts, HasNoEscape text) ∧ coloured.Decorates plain ∧
      (findings.write coloured .warning).Decorates (findings.write plain .warning) ∧
      coloured.out ≠ plain.out ∧ coloured.truncated = true := by
  intro release file item findings coloured plain
  have clean : ∀ text ∈ findings.texts, HasNoEscape text := by decide +kernel
  obtain ⟨fresh, again⟩ := colour_isDecoration findings .warning clean
  refine ⟨clean, fresh (some 0), again coloured plain (fresh (some 0)), ?_, ?_⟩
  · decide +kernel
  · decide +kernel

end ReleaseDrift
