import ReleaseDrift.Comparison.Basic
import ReleaseDrift.Declaration.Change
import ReleaseDrift.Impact.Level
import ReleaseDrift.Json.Basic

/-!
What a report lists: files and items, each with its level and the reason for it.
-/

namespace ReleaseDrift

structure ClassifiedFile where
  file : String
  status : FileStatus
  level : Level
  reason : String
  additions : Nat
  deletions : Nat
  deriving Repr, DecidableEq

inductive ItemKind where
  | field
  | method
  | embeddedType
  | property
  | enum
  | model
  | schema
  deriving Repr, DecidableEq

namespace ItemKind

def all : List ItemKind := [field, method, embeddedType, property, enum, model, schema]

def name : ItemKind → String
  | field => "field"
  | method => "method"
  | embeddedType => "embedded_type"
  | property => "property"
  | enum => "enum"
  | model => "model"
  | schema => "schema"

def label : ItemKind → String
  | embeddedType => "embedded type"
  | kind => kind.name

def ofName? (name : String) : Option ItemKind := all.find? (·.name == name)

end ItemKind

structure ClassifiedItem where
  model : String
  name : String
  kind : ItemKind
  level : Level
  reason : String
  detail : Option String
  deriving Repr, DecidableEq

def Direction.level : Direction → Level
  | .added => .opportunity
  | .removed => .critical

namespace Change

def kind : Change → ItemKind
  | field _ => .field
  | method _ => .method
  | embedded _ => .embeddedType

def reason (change : Change) : String :=
  match change with
  | field _ => "field " ++ change.direction.name ++ place change.direction "used model"
  | method _ => "method " ++ change.direction.name ++ place change.direction "used interface"
  | embedded _ => "embedded type " ++ change.direction.name ++ place change.direction "used model"
where
  place : Direction → String → String
    | .added, owner => " to " ++ owner
    | .removed, owner => " from " ++ owner

def classify (change : Change) (model : String) : ClassifiedItem :=
  { model, name := change.name, kind := change.kind, level := change.direction.level,
    reason := change.reason, detail := some change.detail }

end Change

def ModelChange.classify (model : ModelChange) : List ClassifiedItem :=
  model.changes.map (·.classify model.model)

end ReleaseDrift
