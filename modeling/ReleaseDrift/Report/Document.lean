import ReleaseDrift.Json.Writer
import ReleaseDrift.ReleaseOutcome

/-!
Analyses as JSON documents, with the time of the run and its verdict in front.
-/

namespace ReleaseDrift

def Json.texts (items : List String) : Json := arr (items.map str)

def optionalText (name : String) (text : Option String) : List (String × Json) :=
  Json.optional name (text.map .str)

def optionalCount (name : String) (count : Option Nat) : List (String × Json) :=
  Json.optional name (count.map .ofNat)

def optionalFlag (name : String) (flag : Bool) : List (String × Json) :=
  if flag then [(name, .bool true)] else []

def FieldChange.members (change : FieldChange) : List (String × Json) :=
  [("name", .str change.name), ("type", .str change.type), ("kind", .str change.direction.name)] ++
    optionalCount "line_number" change.line

def MethodChange.members (change : MethodChange) : List (String × Json) :=
  [("name", .str change.name), ("parameters", .str change.parameters),
    ("return_type", .str change.returns), ("kind", .str change.direction.name)] ++
    optionalCount "line_number" change.line

def EmbeddedChange.members (change : EmbeddedChange) : List (String × Json) :=
  [("type_name", .str change.type), ("kind", .str change.direction.name),
    ("context", .str change.block.name)] ++ optionalCount "line_number" change.line

def Change.toJson : Change → Json
  | .field change => .obj (("category", .str "field") :: change.members)
  | .method change => .obj (("category", .str "method") :: change.members)
  | .embedded change => .obj (("category", .str "embedded") :: change.members)

def ModelChange.toJson (model : ModelChange) : Json :=
  .obj [("file_path", .str model.path), ("model_name", .str model.model),
    ("fields_added", .arr (model.fieldsAdded.map fun change => .obj change.members)),
    ("fields_removed", .arr (model.fieldsRemoved.map fun change => .obj change.members)),
    ("methods_added", .arr (model.methodsAdded.map fun change => .obj change.members)),
    ("methods_removed", .arr (model.methodsRemoved.map fun change => .obj change.members)),
    ("embedded_added", .arr (model.embeddedAdded.map fun change => .obj change.members)),
    ("embedded_removed", .arr (model.embeddedRemoved.map fun change => .obj change.members))]

def EnumChange.toJson (change : EnumChange) : Json :=
  .obj [("file_path", .str change.path), ("model_name", .str change.model),
    ("added_values", .texts change.added), ("removed_values", .texts change.removed)]

def SkipCounts.toJson (counts : SkipCounts) : Json :=
  .obj [("comment", .ofNat counts.comment), ("declaration", .ofNat counts.declaration),
    ("implementation", .ofNat counts.implementation), ("unexported", .ofNat counts.unexported),
    ("brace_only", .ofNat counts.braceOnly), ("no_match", .ofNat counts.noMatch)]

def ScanStatistics.toJson (stats : ScanStatistics) : Json :=
  .obj [("files_total", .ofNat stats.filesTotal),
    ("files_with_changes", .ofNat stats.filesWithChanges),
    ("files_without_changes", .ofNat stats.filesWithoutChanges),
    ("unchanged_examples", .texts stats.unchangedExamples),
    ("lines_added", .ofNat stats.linesAdded), ("lines_removed", .ofNat stats.linesRemoved),
    ("fields_added", .ofNat stats.fieldsAdded), ("fields_removed", .ofNat stats.fieldsRemoved),
    ("methods_added", .ofNat stats.methodsAdded), ("methods_removed", .ofNat stats.methodsRemoved),
    ("embedded_added", .ofNat stats.embeddedAdded),
    ("embedded_removed", .ofNat stats.embeddedRemoved), ("filtered", stats.skipped.toJson)]

def ClassifiedFile.toJson (file : ClassifiedFile) : Json :=
  .obj [("file", .str file.file), ("status", .str file.status.name), ("reason", .str file.reason),
    ("additions", .ofNat file.additions), ("deletions", .ofNat file.deletions)]

def ClassifiedItem.toJson (item : ClassifiedItem) : Json :=
  .obj ([("model", .str item.model), ("name", .str item.name), ("kind", .str item.kind.name),
    ("level", .str item.level.name), ("reason", .str item.reason)] ++
    optionalText "detail" item.detail)

def levelMap {α : Type} (encode : α → Json) (entries : List (Level × α)) : Json :=
  .obj (entries.map fun (level, value) => (level.name, encode value))

def Summary.toJson (summary : Summary) : Json :=
  .obj ([("total_files", .ofNat summary.totalFiles), ("total_items", .ofNat summary.totalItems),
    ("files", levelMap .ofNat summary.files), ("items", levelMap .ofNat summary.items),
    ("breaking", .bool summary.breaking)] ++
    optionalText "highest" (summary.highest.map (·.name)))

def Report.toJson (report : Report) : Json :=
  .obj [("levels", levelMap (fun files => .arr (files.map (·.toJson))) report.levels),
    ("items", .arr (report.items.map (·.toJson))), ("summary", report.summary.toJson)]

def Analysis.members (analysis : Analysis) : List (String × Json) :=
  [("commit_count", .ofNat analysis.commitCount)] ++ optionalText "compare_url" analysis.compareUrl ++
    [("model_changes", .arr (analysis.modelChanges.map (·.toJson))),
      ("unused_changes", .ofNat analysis.unusedChanges),
      ("enum_changes", .arr (analysis.enumChanges.map (·.toJson))),
      ("removed_models", .texts analysis.removedModels),
      ("unchanged_files", .texts analysis.unchangedFiles), ("stats", analysis.stats.toJson),
      ("report", analysis.report.toJson)]

def PropertyMetadata.members (metadata : PropertyMetadata) : List (String × Json) :=
  optionalText "description" metadata.description ++
    (if metadata.enumValues.isEmpty then [] else [("enum", .arr metadata.enumValues)]) ++
    optionalText "format" metadata.format ++ optionalText "pattern" metadata.pattern ++
    optionalCount "min_length" metadata.minLength ++ optionalCount "max_length" metadata.maxLength ++
    Json.optional "minimum" (metadata.minimum.map fun x => .num (.real x)) ++
    Json.optional "maximum" (metadata.maximum.map fun x => .num (.real x)) ++
    Json.optional "default" metadata.default ++ Json.optional "example" metadata.example? ++
    optionalFlag "deprecated" metadata.deprecated ++ optionalFlag "read_only" metadata.readOnly ++
    optionalFlag "write_only" metadata.writeOnly

def Property.toJson (property : Property) : Json :=
  .obj ([("type", .str property.type), ("required", .bool property.required),
    ("nullable", .bool property.nullable)] ++ property.metadata.members)

def PropertyChange.toJson (change : PropertyChange) : Json :=
  .obj ([("property_name", .str change.name), ("kind", .str change.kind.name)] ++
    optionalText "old_type" change.oldType ++ optionalText "new_type" change.newType ++
    [("old_required", .bool change.oldRequired), ("new_required", .bool change.newRequired)] ++
    Json.optional "old_nullable" (change.oldNullable.map .bool) ++
    Json.optional "new_nullable" (change.newNullable.map .bool) ++ change.metadata.members)

def SchemaChange.toJson (change : SchemaChange) : Json :=
  .obj [("schema_name", .str change.schema), ("model_name", .str change.model),
    ("added", .arr (change.added.map (·.toJson))), ("removed", .arr (change.removed.map (·.toJson))),
    ("type_changed", .arr (change.typeChanged.map (·.toJson))),
    ("required_changed", .arr (change.requiredChanged.map (·.toJson))),
    ("nullable_changed", .arr (change.nullableChanged.map (·.toJson)))]

def SchemaStatistics.toJson (stats : SchemaStatistics) : Json :=
  .obj [("schemas_old", .ofNat stats.schemasOld), ("schemas_new", .ofNat stats.schemasNew),
    ("schemas_added", .ofNat stats.schemasAdded), ("schemas_removed", .ofNat stats.schemasRemoved),
    ("schemas_compared", .ofNat stats.schemasCompared),
    ("schemas_skipped", .ofNat stats.schemasSkipped),
    ("schemas_malformed", .ofNat stats.schemasMalformed),
    ("schemas_with_changes", .ofNat stats.schemasWithChanges),
    ("properties_added", .ofNat stats.propertiesAdded),
    ("properties_removed", .ofNat stats.propertiesRemoved),
    ("types_changed", .ofNat stats.typesChanged), ("required_changed", .ofNat stats.requiredChanged),
    ("nullable_changed", .ofNat stats.nullableChanged)]

def SchemaComparison.members (comparison : SchemaComparison) : List (String × Json) :=
  [("changes", .arr (comparison.changes.map (·.toJson))),
    ("added_schemas", .texts comparison.addedSchemas),
    ("removed_schemas", .texts comparison.removedSchemas), ("stats", comparison.stats.toJson)]

def SchemaAnalysis.members (analysis : SchemaAnalysis) : List (String × Json) :=
  [("comparison", .obj analysis.comparison.members),
    ("relevant", .arr (analysis.relevant.map (·.toJson))), ("report", analysis.report.toJson)]

def Release.toJson (release : Release) : Json :=
  .obj [("repo", .str release.repo), ("old_ref", .str release.oldRef),
    ("new_ref", .str release.newRef)]

def Outcome.members : Outcome → List (String × Json)
  | .analyzed analysis => ("outcome", .str "analyzed") :: analysis.members
  | .noDiff failure => [("outcome", .str "no_diff_available"), ("reason", .str failure.message)]

def releasesMembers (results : List (Release × Outcome)) : List (String × Json) :=
  [("releases", .arr (results.map fun (release, outcome) =>
    .obj (("release", release.toJson) :: outcome.members)))]

def document (timestamp : String) (breaking : Bool) (body : List (String × Json)) : String :=
  (Json.obj (("timestamp", .str timestamp) :: ("breaking", .bool breaking) :: body)).pretty ++ "\n"

end ReleaseDrift
