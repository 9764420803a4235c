import ReleaseDrift.ReleaseOutcome

/-!
The details of a run, as lines for whoever wants to know what was read.
-/

namespace ReleaseDrift

def sectionTitle (title : String) : String := "=== " ++ title ++ " ==="

def SkipCounts.details (counts : SkipCounts) : List String :=
  let reasons := Declaration.Skip.all.filter fun skip => counts.count skip > 0
  if reasons.isEmpty then []
  else
    ["filtered: " ++ ", ".intercalate
      (reasons.map fun skip => toString (counts.count skip) ++ " " ++ skip.label)]

def ScanStatistics.details (stats : ScanStatistics) : List String :=
  ["files: " ++ toString stats.filesTotal ++ " total, " ++ toString stats.filesWithChanges ++
      " with changes, " ++ toString stats.filesWithoutChanges ++ " without",
    "lines: " ++ toString stats.linesProcessed ++ " processed (" ++ toString stats.linesAdded ++
      " added, " ++ toString stats.linesRemoved ++ " removed)",
    "changes: fields +" ++ toString stats.fieldsAdded ++ " -" ++ toString stats.fieldsRemoved ++
      ", methods +" ++ toString stats.methodsAdded ++ " -" ++ toString stats.methodsRemoved ++
      ", embedded +" ++ toString stats.embeddedAdded ++ " -" ++ toString stats.embeddedRemoved] ++
    stats.skipped.details ++
    (if stats.unchangedExamples.isEmpty then []
      else ["files without changes: " ++ ", ".intercalate stats.unchangedExamples]) ++
    (if stats.looksSuspicious then
      ["most model files produced no structural change; check the diff patterns"]
    else [])

def SchemaStatistics.details (stats : SchemaStatistics) : List String :=
  ["schemas: " ++ toString stats.schemasOld ++ " old, " ++ toString stats.schemasNew ++ " new, " ++
      toString stats.schemasAdded ++ " added, " ++ toString stats.schemasRemoved ++ " removed",
    "compared: " ++ toString stats.schemasCompared ++ " (" ++ toString stats.schemasWithChanges ++
      " with changes, " ++ toString stats.schemasSkipped ++ " skipped, " ++
      toString stats.schemasMalformed ++ " malformed)",
    "properties: " ++ toString stats.propertiesAdded ++ " added, " ++
      toString stats.propertiesRemoved ++ " removed, " ++ toString stats.typesChanged ++ " type, " ++
      toString stats.requiredChanged ++ " required, " ++ toString stats.nullableChanged ++
      " nullable"]

def Analysis.details (analysis : Analysis) : List String :=
  sectionTitle "structural parse" :: analysis.stats.details ++
    [toString analysis.modelChanges.length ++ " changed models used, " ++
      toString analysis.unusedChanges ++ " not used"]

def SchemaAnalysis.details (analysis : SchemaAnalysis) : List String :=
  sectionTitle "schema comparison" :: analysis.comparison.stats.details

def releaseDetails : Release × Outcome → List String
  | (release, .analyzed analysis) => sectionTitle release.display :: analysis.stats.details
  | (release, .noDiff failure) => [release.display ++ ": " ++ failure.message]

end ReleaseDrift
