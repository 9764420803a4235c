import ReleaseDrift.Report.Styled
import ReleaseDrift.ReleaseOutcome

/-!
Reports as text: files by level, then items, then the verdict.
-/

namespace ReleaseDrift

def Level.quiet : List Level := [metadata, noise]

def Level.isQuiet (level : Level) : Bool := quiet.contains level

def plural (count : Nat) : String := if count = 1 then "" else "s"

def Level.column (level : Level) : String :=
  level.name ++ String.ofList (List.replicate (12 - level.name.length) ' ')

def Report.itemsByLevel (report : Report) : List ClassifiedItem :=
  report.items.mergeSort fun left right => left.level.rank ≤ right.level.rank

namespace Formatter

def writeFile (formatter : Formatter) (file : ClassifiedFile) : Formatter :=
  formatter.write "  " |>.setStyle .path |>.write file.file |>.reset
    |>.writeLine (" [" ++ file.status.name ++ "]: " ++ file.reason)

/-- Writes files up to the limit, and how many there are more. -/
def writeFiles (formatter : Formatter) (total shown : Nat) : List ClassifiedFile → Formatter
  | [] => formatter
  | file :: files =>
      match formatter.limit.filter (· ≤ shown) with
      | some limit =>
          formatter.truncate.writeLine ("  ... " ++ toString (total - limit) ++ " more")
      | none => (formatter.writeFile file).writeFiles total (shown + 1) files

def writeLevel (formatter : Formatter) (level : Level) (files : List ClassifiedFile) : Formatter :=
  formatter.setStyle (.ofLevel level) |>.write level.name |>.reset
    |>.writeLine (" (" ++ toString files.length ++ ")") |>.writeFiles files.length 0 files

def writeQuiet (formatter : Formatter) (level : Level) (count : Nat) : Formatter :=
  if count > 0 then
    formatter.writeLine (level.name ++ ": " ++ toString count ++ " file" ++ plural count)
  else formatter

def writeItem (formatter : Formatter) (item : ClassifiedItem) : Formatter :=
  let formatter :=
    formatter.write "  " |>.setStyle (.ofLevel item.level) |>.write item.level.column |>.reset
  let formatter :=
    if item.name = item.model then formatter.write (" " ++ item.model)
    else formatter.write (" " ++ item.model ++ "." ++ item.name)
  let formatter := formatter.write (" (" ++ item.kind.label ++ "): " ++ item.reason)
  let formatter := match item.detail with
    | some detail => formatter.write "  " |>.setStyle .detail |>.write detail |>.reset
    | none => formatter
  formatter.writeLine ""

def writeItems (formatter : Formatter) (report : Report) : Formatter :=
  if report.items.isEmpty then formatter
  else
    report.itemsByLevel.foldl writeItem (formatter.writeLine "" |>.writeLine "changes:")

def writeSummary (formatter : Formatter) (report : Report) (failOn : Level) : Formatter :=
  let summary := report.summary
  let formatter := formatter.write
    (toString summary.totalFiles ++ " file" ++ plural summary.totalFiles ++ ", " ++
      toString summary.totalItems ++ " item" ++ plural summary.totalItems ++ ": ")
  let formatter :=
    if report.reaches failOn then formatter.setStyle .breaking |>.write "BREAKING"
    else formatter.setStyle .ok |>.write "OK"
  let formatter := formatter.reset
  match summary.highest with
  | some level => formatter.writeLine (" (highest: " ++ level.name ++ ")")
  | none => formatter.writeLine ""

def writeReport (formatter : Formatter) (report : Report) (failOn : Level) : Formatter :=
  let formatter := report.levels.foldl
    (fun formatter entry =>
      if entry.1.isQuiet then formatter else formatter.writeLevel entry.1 entry.2) formatter
  let formatter := Level.quiet.foldl
    (fun formatter level => formatter.writeQuiet level (report.filesAt level).length) formatter
  formatter.writeItems report |>.writeLine "" |>.writeSummary report failOn

def writeAnalysis (formatter : Formatter) (analysis : Analysis) (failOn : Level) : Formatter :=
  let formatter := match analysis.compareUrl with
    | some url => formatter.writeLine
        ("compare: " ++ url ++ " (" ++ toString analysis.commitCount ++ " commits)")
    | none => formatter
  let formatter :=
    if analysis.removedModels.isEmpty then formatter
    else formatter.writeLine ("removed models: " ++ toString analysis.removedModels.length)
  formatter.writeReport analysis.report failOn

def writeSchemaChange (formatter : Formatter) (change : SchemaChange) : Formatter :=
  formatter.setStyle .heading |>.write change.model |>.reset
    |>.writeLine (" (" ++ change.schema ++ "): " ++ change.summary)

def writeSchemaAnalysis (formatter : Formatter) (analysis : SchemaAnalysis) (failOn : Level) :
    Formatter :=
  let comparison := analysis.comparison
  let formatter := formatter.writeLine
    ("schemas: " ++ toString comparison.stats.schemasCompared ++ " compared, " ++
      toString comparison.stats.schemasWithChanges ++ " with changes, " ++
      toString comparison.addedSchemas.length ++ " added, " ++
      toString comparison.removedSchemas.length ++ " removed")
  (analysis.relevant.foldl writeSchemaChange formatter).writeReport analysis.report failOn

def writeRelease (formatter : Formatter) (release : Release) (outcome : Outcome) (failOn : Level) :
    Formatter :=
  let formatter :=
    formatter.setStyle .heading |>.writeLine ("== " ++ release.display ++ " ==") |>.reset
  match outcome with
  | .analyzed analysis => formatter.writeAnalysis analysis failOn
  | .noDiff failure => formatter.writeLine failure.message

end Formatter

def Report.page (report : Report) (limit : Option Nat) (failOn : Level) : Page :=
  .ofWriter limit (·.writeReport report failOn)

def Analysis.page (analysis : Analysis) (limit : Option Nat) (failOn : Level) : Page :=
  .ofWriter limit (·.writeAnalysis analysis failOn)

def SchemaAnalysis.page (analysis : SchemaAnalysis) (limit : Option Nat) (failOn : Level) : Page :=
  .ofWriter limit (·.writeSchemaAnalysis analysis failOn)

end ReleaseDrift
