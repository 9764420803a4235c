import ReleaseDrift.Proofs.Schema.Accounting

/-!
The comparison of two documents in the other direction. Whatever is added on the way from one to
the other is removed on the way back, and the rest is recorded with its two sides exchanged.
-/

namespace ReleaseDrift

open SortedMap (Ascending common get?)

namespace PropertyChangeKind

def mirror : PropertyChangeKind → PropertyChangeKind
  | added => removed
  | removed => added
  | kind => kind

theorem occurs_mirror (kind : PropertyChangeKind) (old new : Option Property) :
    kind.mirror.occurs new old = kind.occurs old new := by
  cases kind <;> cases old <;> cases new <;> simp [mirror, occurs, bne_comm]

end PropertyChangeKind

namespace PropertyChange

def mirror (change : PropertyChange) : PropertyChange :=
  { change with
    kind := change.kind.mirror
    oldType := change.newType
    newType := change.oldType
    oldRequired := change.newRequired
    newRequired := change.oldRequired
    oldNullable := change.newNullable
    newNullable := change.oldNullable }

/-- The metadata is that of the new side, which has no mirror image. -/
def withoutMetadata (change : PropertyChange) : PropertyChange := { change with metadata := {} }

theorem between_mirror (name : String) (kind : PropertyChangeKind) (old new : Option Property) :
    (between name kind.mirror new old).withoutMetadata =
      (between name kind old new).mirror.withoutMetadata := rfl

end PropertyChange

namespace SchemaChange

def mirror (change : SchemaChange) : SchemaChange :=
  { change with
    added := change.removed.map (·.mirror)
    removed := change.added.map (·.mirror)
    typeChanged := change.typeChanged.map (·.mirror)
    requiredChanged := change.requiredChanged.map (·.mirror)
    nullableChanged := change.nullableChanged.map (·.mirror) }

def withoutMetadata (change : SchemaChange) : SchemaChange :=
  { change with
    added := change.added.map (·.withoutMetadata)
    removed := change.removed.map (·.withoutMetadata)
    typeChanged := change.typeChanged.map (·.withoutMetadata)
    requiredChanged := change.requiredChanged.map (·.withoutMetadata)
    nullableChanged := change.nullableChanged.map (·.withoutMetadata) }

theorem record?_mirror (kind : PropertyChangeKind) (name : String) (old new : Option Property) :
    (record? kind.mirror name new old).map (·.withoutMetadata) =
      (record? kind name old new).map (·.mirror.withoutMetadata) := by
  rw [record?, record?, kind.occurs_mirror]
  cases kind.occurs old new with
  | true => simp [PropertyChange.between_mirror]
  | false => rfl

section Between

variable {old new : List (String × Property)}

theorem ofKind_between_common (schema : String) {kind : PropertyChangeKind}
    (kept : kind ≠ .added ∧ kind ≠ .removed) :
    (between schema old new).ofKind kind =
      (common old new).filterMap fun entry =>
        record? kind entry.1 (some entry.2.1) (some entry.2.2) := by
  rw [ofKind_between schema old new kept.1]
  apply SortedMap.filterMap_eq_filterMap_common old new
    (fun name before after => record? kind name (some before) after)
  intro name before
  obtain ⟨notAdded, notRemoved⟩ := kept
  cases kind <;> first | contradiction | rfl

theorem removed_between (schema : String) (old new : List (String × Property)) :
    (between schema old new).removed =
      old.filterMap fun entry => record? .removed entry.1 (some entry.2) (get? new entry.1) := by
  have apart : PropertyChangeKind.removed ≠ .added := by decide
  exact ofKind_between schema old new apart

theorem added_between_mirror (schema : String) (old new : List (String × Property)) :
    (between schema new old).added.map (·.withoutMetadata) =
      (between schema old new).removed.map (·.mirror.withoutMetadata) := by
  rw [removed_between, added_between, List.map_filterMap, List.map_filterMap]
  apply List.filterMap_congr
  intro entry _
  exact record?_mirror .removed entry.1 (some entry.2) (get? new entry.1)

theorem removed_between_mirror (schema : String) (old new : List (String × Property)) :
    (between schema new old).removed.map (·.withoutMetadata) =
      (between schema old new).added.map (·.mirror.withoutMetadata) := by
  rw [removed_between, added_between, List.map_filterMap, List.map_filterMap]
  apply List.filterMap_congr
  intro entry _
  exact record?_mirror .added entry.1 (get? old entry.1) (some entry.2)

theorem ofKind_between_mirror (schema : String) (ascendingOld : Ascending old)
    (ascendingNew : Ascending new) {kind : PropertyChangeKind}
    (kept : kind ≠ .added ∧ kind ≠ .removed) :
    ((between schema new old).ofKind kind).map (·.withoutMetadata) =
      ((between schema old new).ofKind kind).map (·.mirror.withoutMetadata) := by
  have same : kind.mirror = kind := by
    obtain ⟨notAdded, notRemoved⟩ := kept
    cases kind <;> first | contradiction | rfl
  rw [ofKind_between_common schema kept, ofKind_between_common schema kept,
    ascendingOld.common_swap ascendingNew, List.map_filterMap, List.map_filterMap,
    List.filterMap_map]
  apply List.filterMap_congr
  intro entry _
  have mirrored := record?_mirror kind entry.1 (some entry.2.1) (some entry.2.2)
  rwa [same] at mirrored

theorem between_mirror (schema : String) (ascendingOld : Ascending old)
    (ascendingNew : Ascending new) :
    (between schema new old).withoutMetadata =
      (between schema old new).mirror.withoutMetadata := by
  have kept (kind : PropertyChangeKind) (present : kind ≠ .added ∧ kind ≠ .removed) :=
    ofKind_between_mirror schema ascendingOld ascendingNew present
  have type := kept .typeChanged (by simp)
  have required := kept .requiredChanged (by simp)
  have nullable := kept .nullableChanged (by simp)
  simp only [ofKind] at type required nullable
  simp only [withoutMetadata, mirror, List.map_map, added_between_mirror schema old new,
    removed_between_mirror schema old new, type, required, nullable]
  rfl

end Between

theorem compare_mirror (schema : String) (old new : Json) :
    (compare schema new old).withoutMetadata = (compare schema old new).mirror.withoutMetadata :=
  between_mirror schema (Property.flatten_ascending old) (Property.flatten_ascending new)

theorem hasChanges_congr {change other : SchemaChange}
    (length : change.all.length = other.all.length) : change.hasChanges = other.hasChanges := by
  have empty : change.all.isEmpty = other.all.isEmpty := by
    rw [Bool.eq_iff_iff, List.isEmpty_iff_length_eq_zero, List.isEmpty_iff_length_eq_zero, length]
  rw [hasChanges, hasChanges, empty]

theorem hasChanges_mirror (change : SchemaChange) :
    change.mirror.withoutMetadata.hasChanges = change.hasChanges := by
  apply hasChanges_congr
  simp only [all, mirror, withoutMetadata, List.length_append, List.length_map]
  omega

theorem hasChanges_withoutMetadata (change : SchemaChange) :
    change.withoutMetadata.hasChanges = change.hasChanges := by
  apply hasChanges_congr
  simp only [all, withoutMetadata, List.length_append, List.length_map]

end SchemaChange

def SchemaStatistics.mirror (stats : SchemaStatistics) : SchemaStatistics :=
  { stats with
    schemasOld := stats.schemasNew
    schemasNew := stats.schemasOld
    schemasAdded := stats.schemasRemoved
    schemasRemoved := stats.schemasAdded
    propertiesAdded := stats.propertiesRemoved
    propertiesRemoved := stats.propertiesAdded }

namespace SchemaComparison

def mirror (comparison : SchemaComparison) : SchemaComparison :=
  { changes := comparison.changes.map (·.mirror)
    addedSchemas := comparison.removedSchemas
    removedSchemas := comparison.addedSchemas
    stats := comparison.stats.mirror }

def withoutMetadata (comparison : SchemaComparison) : SchemaComparison :=
  { comparison with changes := comparison.changes.map (·.withoutMetadata) }

def swapVersions (versions : Versions) : Versions := (versions.1, versions.2.swap)

theorem difference_swapVersions (versions : Versions) :
    (difference (swapVersions versions)).withoutMetadata =
      (difference versions).mirror.withoutMetadata :=
  SchemaChange.compare_mirror versions.1 versions.2.1 versions.2.2

theorem differences_swapVersions (scope : String) (shared : List Versions) :
    (differences scope (shared.map swapVersions)).map (·.withoutMetadata) =
      (differences scope shared).map (·.mirror.withoutMetadata) := by
  have within : (shared.map swapVersions).filter (inScope scope) =
      (shared.filter (inScope scope)).map swapVersions := List.filter_map
  have changed (versions : Versions) : (difference (swapVersions versions)).hasChanges =
      (difference versions).hasChanges := by
    rw [← SchemaChange.hasChanges_withoutMetadata, difference_swapVersions,
      SchemaChange.hasChanges_mirror]
  rw [differences, differences, within, List.map_map, List.filter_map, List.filter_map,
    List.map_map, List.map_map]
  congr 1
  · funext versions
    exact difference_swapVersions versions
  · apply List.filter_congr
    intro versions _
    exact changed versions

theorem sum_swapVersions (scope : String) (shared : List Versions) (kind : PropertyChangeKind) :
    ((differences scope (shared.map swapVersions)).map fun change =>
        (change.ofKind kind).length).sum =
      ((differences scope shared).map fun change => (change.ofKind kind.mirror).length).sum := by
  have kept (change : SchemaChange) :
      (change.withoutMetadata.ofKind kind).length = (change.ofKind kind).length := by
    cases kind <;> exact List.length_map _
  have turned (change : SchemaChange) :
      (change.mirror.ofKind kind).length = (change.ofKind kind.mirror).length := by
    cases kind <;> exact List.length_map _
  have sizes := congrArg (List.map fun change => (change.ofKind kind).length)
    (differences_swapVersions scope shared)
  simp only [List.map_map, Function.comp_def, kept, turned] at sizes
  rw [sizes]

theorem stats_swapVersions (old new : SchemaDocument) (scope : String) (shared : List Versions) :
    (ofShared (start new old) scope (shared.map swapVersions)).stats =
      (ofShared (start old new) scope shared).stats.mirror := by
  have compared : (shared.map swapVersions).filter (inScope scope) =
      (shared.filter (inScope scope)).map swapVersions := List.filter_map
  have skipped : (shared.map swapVersions).filter (!inScope scope ·) =
      (shared.filter (!inScope scope ·)).map swapVersions := List.filter_map
  have malformed : isMalformed ∘ swapVersions = isMalformed := by
    funext versions
    exact Bool.or_comm _ _
  have changed := congrArg List.length (differences_swapVersions scope shared)
  rw [List.length_map, List.length_map] at changed
  have counted := sum_swapVersions scope shared
  have added := counted .added
  have removed := counted .removed
  have type := counted .typeChanged
  have required := counted .requiredChanged
  have nullable := counted .nullableChanged
  simp only [SchemaChange.ofKind, PropertyChangeKind.mirror] at added removed type required nullable
  simp only [ofShared, start, SchemaStatistics.mirror, compared, skipped, changed, added, removed,
    type, required, nullable, List.length_map, List.countP_map, malformed]

/-- The comparison in the other direction is the mirror image of the comparison. -/
theorem compare_swap {old new : SchemaDocument} (ascendingOld : Ascending old.schemas)
    (ascendingNew : Ascending new.schemas) (scope : String) :
    (compare new old scope).withoutMetadata = (compare old new scope).mirror.withoutMetadata := by
  have shared : common new.schemas old.schemas =
      (common old.schemas new.schemas).map swapVersions := ascendingOld.common_swap ascendingNew
  have changes := differences_swapVersions scope (common old.schemas new.schemas)
  have stats := stats_swapVersions old new scope (common old.schemas new.schemas)
  rw [compare_eq_ofShared, compare_eq_ofShared, shared, withoutMetadata, stats, withoutMetadata]
  simp only [ofShared, mirror, start, changes, List.map_map]
  rfl

theorem compare_swap_of_user :
    let property (type : String) : Json := .obj [("type", .str type)]
    let schema (properties : List (String × Json)) : Json := .obj [("properties", .obj properties)]
    let old : SchemaDocument :=
      { schemas := [("group", schema []),
          ("user", schema [("id", property "string"), ("mail", property "string")])] }
    let new : SchemaDocument :=
      { schemas := [("user", schema [("id", property "integer"), ("upn", property "string")])] }
    Ascending old.schemas ∧ Ascending new.schemas ∧
      (compare new old "").withoutMetadata = (compare old new "").mirror.withoutMetadata ∧
      (compare old new "").removedSchemas = ["group"] ∧
      (compare new old "").addedSchemas = ["group"] ∧
      (compare old new "").changes.flatMap (fun change =>
          change.all.map fun record => (record.name, record.kind, record.oldType)) =
        [("upn", .added, none), ("mail", .removed, some "string"),
          ("id", .typeChanged, some "string")] ∧
      (compare new old "").changes.flatMap (fun change =>
          change.all.map fun record => (record.name, record.kind, record.newType)) =
        [("mail", .added, some "string"), ("upn", .removed, none),
          ("id", .typeChanged, some "string")] := by
  intro property schema old new
  have ascendingOld : Ascending old.schemas := by decide +kernel
  have ascendingNew : Ascending new.schemas := by decide +kernel
  exact ⟨ascendingOld, ascendingNew, compare_swap ascendingOld ascendingNew "",
    by decide +kernel, by decide +kernel, by decide +kernel, by decide +kernel⟩

end SchemaComparison

end ReleaseDrift
