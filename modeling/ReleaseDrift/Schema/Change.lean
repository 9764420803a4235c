import ReleaseDrift.Impact.Item
import ReleaseDrift.Schema.Property

/-!
Differences between two versions of a schema, property by property.
-/

namespace ReleaseDrift

inductive PropertyChangeKind where
  | added
  | removed
  | typeChanged
  | requiredChanged
  | nullableChanged
  deriving Repr, DecidableEq

namespace PropertyChangeKind

def all : List PropertyChangeKind := [added, removed, typeChanged, requiredChanged, nullableChanged]

def name : PropertyChangeKind → String
  | added => "added"
  | removed => "removed"
  | typeChanged => "type_changed"
  | requiredChanged => "required_changed"
  | nullableChanged => "nullable_changed"

def label : PropertyChangeKind → String
  | added => "added"
  | removed => "removed"
  | typeChanged => "type changed"
  | requiredChanged => "required changed"
  | nullableChanged => "nullable changed"

def ofName? (name : String) : Option PropertyChangeKind := all.find? (·.name == name)

end PropertyChangeKind

structure PropertyChange where
  name : String
  kind : PropertyChangeKind
  oldType : Option String
  newType : Option String
  oldRequired : Bool
  newRequired : Bool
  oldNullable : Option Bool
  newNullable : Option Bool
  /-- From the new version, or from the old one where the new has no such property. -/
  metadata : PropertyMetadata
  deriving Repr

namespace PropertyChange

def between (name : String) (kind : PropertyChangeKind) (old new : Option Property) :
    PropertyChange :=
  { name
    kind
    oldType := old.map (·.type)
    newType := new.map (·.type)
    oldRequired := old.any (·.required)
    newRequired := new.any (·.required)
    oldNullable := old.map (·.nullable)
    newNullable := new.map (·.nullable)
    metadata := ((new <|> old).map (·.metadata)).getD {} }

def isBreaking (change : PropertyChange) : Bool :=
  match change.kind with
  | .removed => true
  | .typeChanged => true
  | .requiredChanged => !change.oldRequired && change.newRequired
  | .added => false
  | .nullableChanged => false

def level (change : PropertyChange) : Level :=
  match change.kind with
  | .added => .opportunity
  | .removed => .critical
  | .typeChanged => .critical
  | .requiredChanged => if change.isBreaking then .critical else .warning
  | .nullableChanged => .warning

def reason (change : PropertyChange) : String :=
  match change.kind with
  | .added => "property added to used schema"
  | .removed => "property removed from used schema"
  | .typeChanged => "property type changed"
  | .requiredChanged =>
      if change.isBreaking then "property became required" else "property no longer required"
  | .nullableChanged => "property nullability changed"

def detail? (change : PropertyChange) : Option String :=
  match change.kind with
  | .added => change.newType
  | .removed => change.oldType
  | .typeChanged => some (change.oldType.getD "?" ++ " -> " ++ change.newType.getD "?")
  | .requiredChanged =>
      some ("required: " ++ toString change.oldRequired ++ " -> " ++ toString change.newRequired)
  | .nullableChanged =>
      match change.oldNullable, change.newNullable with
      | some old, some new => some ("nullable: " ++ toString old ++ " -> " ++ toString new)
      | _, _ => none

end PropertyChange

structure SchemaChange where
  schema : String
  model : String
  added : List PropertyChange := []
  removed : List PropertyChange := []
  typeChanged : List PropertyChange := []
  requiredChanged : List PropertyChange := []
  nullableChanged : List PropertyChange := []
  deriving Repr

namespace SchemaChange

def ofName (schema : String) : SchemaChange := { schema, model := ModelName.ofSchema schema }

def push (change : SchemaChange) (property : PropertyChange) : SchemaChange :=
  match property.kind with
  | .added => { change with added := change.added ++ [property] }
  | .removed => { change with removed := change.removed ++ [property] }
  | .typeChanged => { change with typeChanged := change.typeChanged ++ [property] }
  | .requiredChanged => { change with requiredChanged := change.requiredChanged ++ [property] }
  | .nullableChanged => { change with nullableChanged := change.nullableChanged ++ [property] }

def all (change : SchemaChange) : List PropertyChange :=
  change.added ++ change.removed ++ change.typeChanged ++ change.requiredChanged ++
    change.nullableChanged

def hasChanges (change : SchemaChange) : Bool := !change.all.isEmpty

def breaking (change : SchemaChange) : List PropertyChange := change.all.filter (·.isBreaking)

def hasBreaking (change : SchemaChange) : Bool := !change.breaking.isEmpty

def summary (change : SchemaChange) : String :=
  let parts :=
    [(change.added.length, PropertyChangeKind.added), (change.removed.length, .removed),
      (change.typeChanged.length, .typeChanged), (change.requiredChanged.length, .requiredChanged),
      (change.nullableChanged.length, .nullableChanged)].filter fun part => part.1 != 0
  if parts.isEmpty then "no changes"
  else ", ".intercalate (parts.map fun (count, kind) => toString count ++ " " ++ kind.label)

def classify (change : SchemaChange) : List ClassifiedItem :=
  change.all.map fun property =>
    { model := change.model, name := property.name, kind := .property, level := property.level,
      reason := property.reason, detail := property.detail? }

/-- The difference between two versions of the properties. One property may differ in several
    respects and is then in several lists. -/
def between (schema : String) (old new : List (String × Property)) : SchemaChange :=
  let shared (kind : PropertyChangeKind) (differs : Property → Property → Bool) :
      List PropertyChange :=
    old.filterMap fun (name, before) =>
      (SortedMap.get? new name).bind fun after =>
        if differs before after then some (.between name kind (some before) (some after)) else none
  { ofName schema with
    added := new.filterMap fun (name, after) =>
      if SortedMap.contains old name then none else some (.between name .added none (some after))
    removed := old.filterMap fun (name, before) =>
      if SortedMap.contains new name then none
      else some (.between name .removed (some before) none)
    typeChanged := shared .typeChanged fun before after => before.type != after.type
    requiredChanged := shared .requiredChanged fun before after => before.required != after.required
    nullableChanged := shared .nullableChanged fun before after => before.nullable != after.nullable }

def compare (schema : String) (old new : Json) : SchemaChange :=
  between schema (Property.flatten old) (Property.flatten new)

end SchemaChange

end ReleaseDrift
