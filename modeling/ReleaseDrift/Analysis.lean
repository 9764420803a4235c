import ReleaseDrift.Diff.EnumValues
import ReleaseDrift.Diff.Scan
import ReleaseDrift.Impact.FileRules
import ReleaseDrift.Report.Basic
import ReleaseDrift.Schema.Comparison

/-!
What two releases of a library mean for a consumer: from the files that changed, and from the
schema documents.
-/

namespace ReleaseDrift

structure Analysis where
  commitCount : Nat := 0
  compareUrl : Option String := none
  modelChanges : List ModelChange := []
  unusedChanges : Nat := 0
  enumChanges : List EnumChange := []
  removedModels : List String := []
  unchangedFiles : List String := []
  stats : ScanStatistics := {}
  report : Report := {}
  deriving Repr, DecidableEq

def removedModelItem? (usage : Usage) (path : String) : Option ClassifiedItem :=
  let model := ModelName.ofPath path
  if usage.relevant model path then
    some { model, name := model, kind := .model, level := .critical,
           reason := "used model file removed", detail := some path }
  else none

def Config.analyze (config : Config) (usage : Usage) (comparison : Comparison) : Analysis :=
  let kept := modelFiles comparison.files config.library.modelDir
  let structural := Diff.scanText (unifiedDiff kept)
  let modelChanges := structural.changes.filter fun change => usage.relevant change.model change.path
  let enumChanges := (kept.filterMap EnumChange.ofFile?).filter fun change =>
    usage.relevant change.model change.path
  let removedModels := (removedModelFiles comparison.files config.library.modelDir).map (·.path)
  let items := modelChanges.flatMap (·.classify) ++ enumChanges.filterMap (·.classify?) ++
    removedModels.filterMap (removedModelItem? usage)
  { commitCount := comparison.commitCount
    compareUrl := comparison.compareUrl
    modelChanges
    unusedChanges := structural.changes.length - modelChanges.length
    enumChanges
    removedModels
    unchangedFiles := structural.unchangedFiles
    stats := structural.stats
    report := .build (comparison.files.map (config.classifyFile usage)) items }

structure SchemaAnalysis where
  comparison : SchemaComparison := {}
  relevant : List SchemaChange := []
  report : Report := {}
  deriving Repr

def removedSchemaItem (schema : String) : ClassifiedItem :=
  let model := ModelName.ofSchema schema
  { model, name := model, kind := .schema, level := .critical, reason := "used schema removed",
    detail := some schema }

def Config.analyzeSchemas (config : Config) (usage : Usage) (old new : SchemaDocument) :
    SchemaAnalysis :=
  let scope := config.library.schemaNamespace
  let comparison := SchemaComparison.compare old new scope
  let relevant := comparison.changes.filter fun change => usage.relevantSchema change.schema
  let removed := comparison.removedSchemas.filter fun name =>
    Text.startsWith scope.toList name.toList && usage.relevantSchema name
  { comparison
    relevant
    report := .build [] (relevant.flatMap (·.classify) ++ removed.map removedSchemaItem) }

end ReleaseDrift
