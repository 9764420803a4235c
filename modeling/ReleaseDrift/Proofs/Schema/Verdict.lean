import ReleaseDrift.Proofs.Schema.Accounting
import ReleaseDrift.Proofs.Verdict

/-!
What makes a comparison of two documents breaking: the breaking property changes of the schemas
that are watched, and the loss of such a schema. Any other schema leaves no trace in the report.
-/

namespace ReleaseDrift

open SortedMap (common)

def Usage.CoversSchema (usage : Usage) (schema : String) : Prop :=
  (usage.models = [] ∧ usage.files = [] ∧ usage.packages = []) ∨
    ModelName.ofSchema schema ∈ usage.models

instance (usage : Usage) (schema : String) : Decidable (usage.CoversSchema schema) :=
  inferInstanceAs (Decidable (_ ∨ _))

theorem Usage.relevantSchema_iff (usage : Usage) (schema : String) :
    usage.relevantSchema schema = true ↔ usage.CoversSchema schema := by
  simp only [relevantSchema, isEmpty, usesSchema, CoversSchema, Bool.or_eq_true, Bool.and_eq_true,
    List.isEmpty_iff, List.contains_iff_mem, and_assoc]

namespace PropertyChange

theorem level_isBreaking (record : PropertyChange) :
    record.level.isBreaking = record.isBreaking := by
  rw [level]
  cases kind : record.kind with
  | requiredChanged => cases breaks : record.isBreaking <;> rfl
  | _ =>
      rw [isBreaking, kind]
      rfl

theorem level_ne_enumRemoved (record : PropertyChange) : record.level ≠ .enumRemoved := by
  rw [level]
  cases record.kind with
  | requiredChanged => cases record.isBreaking <;> decide
  | _ => simp only [ne_eq, reduceCtorEq, not_false_eq_true]

end PropertyChange

theorem Level.eq_critical_iff {level : Level} (other : level ≠ .enumRemoved) :
    level = .critical ↔ level.isBreaking = true := by
  rw [isBreaking, reaches_critical_iff, or_iff_left other]

namespace SchemaChange

def item (change : SchemaChange) (record : PropertyChange) : ClassifiedItem :=
  { model := change.model, name := record.name, kind := .property, level := record.level,
    reason := record.reason, detail := record.detail? }

theorem classify_eq (change : SchemaChange) : change.classify = change.all.map change.item := rfl

theorem filter_isBreaking_classify (change : SchemaChange) :
    change.classify.filter (·.level.isBreaking) = change.breaking.map change.item := by
  rw [classify_eq, List.filter_map, breaking]
  congr 1
  apply List.filter_congr
  intro record _
  exact record.level_isBreaking

theorem countP_name_ofKind (schema : String) (old new : Json) (kind : PropertyChangeKind)
    (name : String) :
    ((compare schema old new).ofKind kind).countP (·.name = name) =
      if name ∈ ((compare schema old new).ofKind kind).map (·.name) then 1 else 0 := by
  have ascending := names_between_ascending schema (Property.flatten_ascending old)
    (Property.flatten_ascending new) kind
  have distinct : (((compare schema old new).ofKind kind).map (·.name)).Nodup := by
    refine List.Pairwise.imp ?_ ascending
    rintro name _ below rfl
    exact String.lt_irrefl name below
  rw [← distinct.count, List.count_eq_countP, List.countP_map]
  rfl

theorem countP_name_classify (schema : String) (old new : Json) (name : String) :
    (compare schema old new).classify.countP (·.name = name) =
      PropertyChangeKind.all.countP fun kind =>
        name ∈ ((compare schema old new).ofKind kind).map (·.name) := by
  have once := countP_name_ofKind schema old new
  have records : (compare schema old new).classify.countP (·.name = name) =
      (compare schema old new).all.countP (·.name = name) := by
    rw [classify_eq, List.countP_map]
    rfl
  rw [records, all_eq]
  simp only [List.countP_append, once, PropertyChangeKind.all, List.countP_cons, List.countP_nil,
    decide_eq_true_eq]
  omega

end SchemaChange

/-- A schema that a report may be about: it is in the namespace and its model is used. -/
def Config.Watches (config : Config) (usage : Usage) (schema : String) : Prop :=
  config.library.schemaNamespace.toList <+: schema.toList ∧ usage.CoversSchema schema

instance (config : Config) (usage : Usage) (schema : String) :
    Decidable (config.Watches usage schema) :=
  inferInstanceAs (Decidable (_ ∧ _))

def Config.watched (config : Config) (usage : Usage) (document : SchemaDocument) :
    List (String × Json) :=
  document.schemas.filter fun entry => config.Watches usage entry.1

def Config.relevantChanges (config : Config) (usage : Usage) (old new : SchemaDocument) :
    List SchemaChange :=
  (SchemaComparison.compare old new config.library.schemaNamespace).changes.filter
    (usage.CoversSchema ·.schema)

def Config.lostSchemas (config : Config) (usage : Usage) (old new : SchemaDocument) :
    List String :=
  old.names.filter fun name => name ∉ new.names ∧ config.Watches usage name

section Analysis

open SchemaComparison

variable (config : Config) (usage : Usage) (old new : SchemaDocument)

theorem relevantChanges_eq :
    config.relevantChanges usage old new =
      ((common (config.watched usage old) (config.watched usage new)).map
        difference).filter (·.hasChanges) := by
  have watched : common (config.watched usage old) (config.watched usage new) =
      ((common old.schemas new.schemas).filter (inScope config.library.schemaNamespace)).filter
        (usage.CoversSchema ·.1) := by
    rw [Config.watched, Config.watched,
      ← SortedMap.filter_common old.schemas new.schemas fun name => config.Watches usage name,
      List.filter_filter]
    apply List.filter_congr
    intro versions _
    rw [Bool.eq_iff_iff, Bool.and_eq_true, inScope_iff, decide_eq_true_iff, decide_eq_true_iff]
    exact And.comm
  have changes : (compare old new config.library.schemaNamespace).changes =
      differences config.library.schemaNamespace (common old.schemas new.schemas) := by
    rw [compare_eq_ofShared]
    rfl
  rw [watched, Config.relevantChanges, changes, differences, List.filter_comm, List.filter_map]
  rfl

theorem mem_relevantChanges {change : SchemaChange}
    (member : change ∈ config.relevantChanges usage old new) :
    config.Watches usage change.schema ∧
      ∃ before after, change = SchemaChange.compare change.schema before after := by
  rw [relevantChanges_eq] at member
  obtain ⟨⟨schema, before, after⟩, shared, rfl⟩ := List.mem_map.mp (List.mem_filter.mp member).1
  obtain ⟨entry, listed, found⟩ := List.mem_filterMap.mp shared
  have named : entry.1 = schema := by
    obtain ⟨_, _, same⟩ := Option.map_eq_some_iff.mp found
    exact congrArg (·.1) same
  have isWatched := of_decide_eq_true (List.mem_filter.mp listed).2
  rw [named] at isWatched
  exact ⟨isWatched, before, after, rfl⟩

theorem lostSchemas_eq :
    config.lostSchemas usage old new =
      ((config.watched usage old).map (·.1)).filter fun name =>
        name ∉ (config.watched usage new).map (·.1) := by
  have names (document : SchemaDocument) : (config.watched usage document).map (·.1) =
      document.names.filter fun name => config.Watches usage name := by
    rw [SchemaDocument.names, List.filter_map]
    rfl
  rw [names, names, List.filter_filter]
  apply List.filter_congr
  intro name _
  rw [Bool.eq_iff_iff, Bool.and_eq_true, decide_eq_true_iff, decide_eq_true_iff, decide_eq_true_iff,
    List.mem_filter, decide_eq_true_iff]
  constructor
  · rintro ⟨gone, isWatched⟩
    exact ⟨fun present => gone present.1, isWatched⟩
  · rintro ⟨gone, isWatched⟩
    exact ⟨fun present => gone ⟨present, isWatched⟩, isWatched⟩

theorem analyzeSchemas_relevant :
    (config.analyzeSchemas usage old new).relevant = config.relevantChanges usage old new := by
  apply List.filter_congr
  intro change _
  rw [Bool.eq_iff_iff, Usage.relevantSchema_iff, decide_eq_true_iff]

theorem analyzeSchemas_report :
    (config.analyzeSchemas usage old new).report =
      .build [] ((config.relevantChanges usage old new).flatMap (·.classify) ++
        (config.lostSchemas usage old new).map removedSchemaItem) := by
  have removed : (missing old new).filter (fun name =>
      Text.startsWith config.library.schemaNamespace.toList name.toList &&
        usage.relevantSchema name) = config.lostSchemas usage old new := by
    rw [missing, List.filter_filter]
    apply List.filter_congr
    intro name _
    rw [Bool.eq_iff_iff, decide_eq_true_iff, Bool.and_eq_true, Bool.and_eq_true,
      Text.startsWith_iff, Usage.relevantSchema_iff, Bool.not_eq_true', Bool.eq_false_iff, Ne,
      SortedMap.contains_iff]
    exact And.comm
  have removedSchemas : (compare old new config.library.schemaNamespace).removedSchemas =
      missing old new := by
    rw [compare_eq_ofShared]
    rfl
  rw [← analyzeSchemas_relevant, ← removed, ← removedSchemas]
  rfl

theorem analyzeSchemas_filter_isBreaking :
    (config.analyzeSchemas usage old new).report.items.filter (·.level.isBreaking) =
      ((config.relevantChanges usage old new).flatMap fun change =>
        change.breaking.map change.item) ++
          (config.lostSchemas usage old new).map removedSchemaItem := by
  have lost : ((config.lostSchemas usage old new).map removedSchemaItem).filter
      (·.level.isBreaking) = (config.lostSchemas usage old new).map removedSchemaItem := by
    rw [List.filter_eq_self]
    intro item member
    obtain ⟨name, _, rfl⟩ := List.mem_map.mp member
    rfl
  rw [analyzeSchemas_report, Report.build, List.filter_append, lost, List.filter_flatMap]
  simp only [SchemaChange.filter_isBreaking_classify]

theorem analyzeSchemas_level_ne_enumRemoved {item : ClassifiedItem}
    (member : item ∈ (config.analyzeSchemas usage old new).report.items) :
    item.level ≠ .enumRemoved := by
  rw [analyzeSchemas_report, Report.build, List.mem_append] at member
  rcases member with declared | lost
  · obtain ⟨change, _, listed⟩ := List.mem_flatMap.mp declared
    obtain ⟨record, _, rfl⟩ := List.mem_map.mp listed
    exact record.level_ne_enumRemoved
  · obtain ⟨name, _, rfl⟩ := List.mem_map.mp lost
    simp [removedSchemaItem]

theorem analyzeSchemas_countP_critical :
    (config.analyzeSchemas usage old new).report.items.countP (·.level = .critical) =
      ((config.relevantChanges usage old new).map (·.breaking.length)).sum +
        (config.lostSchemas usage old new).length := by
  have severe : (config.analyzeSchemas usage old new).report.items.countP (·.level = .critical) =
      (config.analyzeSchemas usage old new).report.items.countP (·.level.isBreaking) := by
    apply List.countP_congr
    intro item member
    have level := Level.eq_critical_iff (analyzeSchemas_level_ne_enumRemoved _ _ _ _ member)
    rw [decide_eq_true_iff, level]
  rw [severe, List.countP_eq_length_filter, analyzeSchemas_filter_isBreaking, List.length_append,
    List.length_flatMap, List.length_map]
  simp only [List.length_map]

theorem analyzeSchemas_breaking_iff :
    (config.analyzeSchemas usage old new).report.summary.breaking = true ↔
      (∃ change ∈ config.relevantChanges usage old new, change.hasBreaking = true) ∨
        ∃ name ∈ old.names, name ∉ new.names ∧ config.Watches usage name := by
  have reached : (config.analyzeSchemas usage old new).report.summary.breaking = true ↔
      ∃ item ∈ (config.analyzeSchemas usage old new).report.items,
        item.level.isBreaking = true := by
    rw [analyzeSchemas_report]
    refine (Report.build_reaches_iff _ _ .critical).trans ?_
    simp only [List.not_mem_nil, false_and, exists_false, false_or]
    rfl
  have listed : (∃ item ∈ (config.analyzeSchemas usage old new).report.items,
      item.level.isBreaking = true) ↔
        (config.analyzeSchemas usage old new).report.items.filter (·.level.isBreaking) ≠ [] := by
    simp [List.filter_eq_nil_iff]
  rw [reached, listed, analyzeSchemas_filter_isBreaking, Ne, List.append_eq_nil_iff, not_and_or,
    List.flatMap_eq_nil_iff, List.map_eq_nil_iff, Config.lostSchemas, List.filter_eq_nil_iff]
  simp [SchemaChange.hasBreaking]

end Analysis

/-- What a report about two documents says: which items it has, which of them are severe, and when
    it is breaking. -/
structure SchemaAnalysis.IsVerdict (analysis : SchemaAnalysis) (config : Config) (usage : Usage)
    (old new : SchemaDocument) : Prop where
  relevant : analysis.relevant = config.relevantChanges usage old new
  watched : ∀ change ∈ analysis.relevant, config.Watches usage change.schema
  items : analysis.report.items =
    (analysis.relevant.flatMap fun change => change.all.map change.item) ++
      (config.lostSchemas usage old new).map removedSchemaItem
  once : ∀ change ∈ analysis.relevant, ∀ name,
    (change.all.map change.item).countP (·.name = name) =
      PropertyChangeKind.all.countP fun kind => name ∈ (change.ofKind kind).map (·.name)
  severe : analysis.report.items.filter (·.level.isBreaking) =
    (analysis.relevant.flatMap fun change => change.breaking.map change.item) ++
      (config.lostSchemas usage old new).map removedSchemaItem
  critical : analysis.report.items.countP (·.level = .critical) =
    (analysis.relevant.map (·.breaking.length)).sum + (config.lostSchemas usage old new).length
  noEnum : ∀ item ∈ analysis.report.items, item.level ≠ .enumRemoved
  breaking : analysis.report.summary.breaking = true ↔
    (∃ change ∈ analysis.relevant, change.hasBreaking = true) ∨
      ∃ name ∈ old.names, name ∉ new.names ∧ config.Watches usage name
  silent : ∀ otherOld otherNew, config.watched usage otherOld = config.watched usage old →
    config.watched usage otherNew = config.watched usage new →
      (config.analyzeSchemas usage otherOld otherNew).report = analysis.report

/-- The verdict on two documents is what the breaking changes and the losses of watched schemas
    make it, and no other schema has a part in it. -/
theorem analyzeSchemas_isVerdict (config : Config) (usage : Usage) (old new : SchemaDocument) :
    (config.analyzeSchemas usage old new).IsVerdict config usage old new := by
  have relevant := analyzeSchemas_relevant config usage old new
  have changes {change : SchemaChange}
      (member : change ∈ (config.analyzeSchemas usage old new).relevant) :=
    mem_relevantChanges config usage old new (relevant ▸ member)
  exact {
    relevant
    watched := fun _ member => (changes member).1
    items := by
      rw [relevant, analyzeSchemas_report]
      rfl
    once := fun change member name => by
      obtain ⟨_, before, after, same⟩ := changes member
      rw [same]
      exact SchemaChange.countP_name_classify change.schema before after name
    severe := by
      rw [relevant]
      exact analyzeSchemas_filter_isBreaking config usage old new
    critical := by
      rw [relevant]
      exact analyzeSchemas_countP_critical config usage old new
    noEnum := fun _ => analyzeSchemas_level_ne_enumRemoved config usage old new
    breaking := by
      rw [relevant]
      exact analyzeSchemas_breaking_iff config usage old new
    silent := fun otherOld otherNew sameOld sameNew => by
      rw [analyzeSchemas_report, analyzeSchemas_report, relevantChanges_eq, relevantChanges_eq,
        lostSchemas_eq, lostSchemas_eq, sameOld, sameNew] }

end ReleaseDrift
