import ReleaseDrift.Schema.Change
import ReleaseDrift.Schema.Document

/-!
Comparison of two schema documents. Only schemas of one namespace that stand in both are
compared; the others are counted or listed.
-/

namespace ReleaseDrift

structure SchemaStatistics where
  schemasOld : Nat := 0
  schemasNew : Nat := 0
  schemasAdded : Nat := 0
  schemasRemoved : Nat := 0
  schemasCompared : Nat := 0
  schemasSkipped : Nat := 0
  /-- Compared although one side or both are no objects. -/
  schemasMalformed : Nat := 0
  schemasWithChanges : Nat := 0
  propertiesAdded : Nat := 0
  propertiesRemoved : Nat := 0
  typesChanged : Nat := 0
  requiredChanged : Nat := 0
  nullableChanged : Nat := 0
  deriving Repr, DecidableEq

namespace SchemaStatistics

def skip (stats : SchemaStatistics) : SchemaStatistics :=
  { stats with schemasSkipped := stats.schemasSkipped + 1 }

def record (stats : SchemaStatistics) (malformed : Bool) (change : SchemaChange) :
    SchemaStatistics :=
  { stats with
    schemasCompared := stats.schemasCompared + 1
    schemasMalformed := stats.schemasMalformed + malformed.toNat
    schemasWithChanges := stats.schemasWithChanges + change.hasChanges.toNat
    propertiesAdded := stats.propertiesAdded + change.added.length
    propertiesRemoved := stats.propertiesRemoved + change.removed.length
    typesChanged := stats.typesChanged + change.typeChanged.length
    requiredChanged := stats.requiredChanged + change.requiredChanged.length
    nullableChanged := stats.nullableChanged + change.nullableChanged.length }

end SchemaStatistics

structure SchemaComparison where
  changes : List SchemaChange := []
  addedSchemas : List String := []
  removedSchemas : List String := []
  stats : SchemaStatistics := {}
  deriving Repr

namespace SchemaComparison

def add (scope : String) (comparison : SchemaComparison) (name : String) (old new : Json) :
    SchemaComparison :=
  if Text.startsWith scope.toList name.toList then
    let change := SchemaChange.compare name old new
    let malformed := old.obj?.isNone || new.obj?.isNone
    { comparison with
      changes := if change.hasChanges then comparison.changes ++ [change] else comparison.changes
      stats := comparison.stats.record malformed change }
  else { comparison with stats := comparison.stats.skip }

def missing (document other : SchemaDocument) : List String :=
  document.names.filter fun name => !SortedMap.contains other.schemas name

def compare (old new : SchemaDocument) (scope : String) : SchemaComparison :=
  let addedSchemas := missing new old
  let removedSchemas := missing old new
  let start : SchemaComparison :=
    { addedSchemas
      removedSchemas
      stats :=
        { schemasOld := old.size
          schemasNew := new.size
          schemasAdded := addedSchemas.length
          schemasRemoved := removedSchemas.length } }
  old.schemas.foldl
    (fun comparison (name, schema) =>
      match new.get? name with
      | some other => comparison.add scope name schema other
      | none => comparison)
    start

end SchemaComparison

end ReleaseDrift
