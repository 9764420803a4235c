import ReleaseDrift.ModelName

/-!
Declarations that appeared in a model file or disappeared from it: struct fields,
interface methods and embedded types.
-/

namespace ReleaseDrift

inductive Direction where
  | added
  | removed
  deriving Repr, DecidableEq

def Direction.name : Direction → String
  | .added => "added"
  | .removed => "removed"

inductive Block where
  | struct
  | interface
  deriving Repr, DecidableEq

def Block.name : Block → String
  | .struct => "struct"
  | .interface => "interface"

structure FieldChange where
  name : String
  type : String
  direction : Direction
  line : Option Nat
  deriving Repr, DecidableEq

structure MethodChange where
  name : String
  parameters : String
  returns : String
  direction : Direction
  line : Option Nat
  deriving Repr, DecidableEq

def MethodChange.signature (method : MethodChange) : String :=
  let head := method.name ++ "(" ++ method.parameters ++ ")"
  if method.returns.isEmpty then head else head ++ " " ++ method.returns

structure EmbeddedChange where
  type : String
  direction : Direction
  block : Block
  line : Option Nat
  deriving Repr, DecidableEq

inductive Change where
  | field (change : FieldChange)
  | method (change : MethodChange)
  | embedded (change : EmbeddedChange)
  deriving Repr, DecidableEq

namespace Change

def direction : Change → Direction
  | field change => change.direction
  | method change => change.direction
  | embedded change => change.direction

def name : Change → String
  | field change => change.name
  | method change => change.name
  | embedded change => change.type

def category : Change → String
  | field _ => "field"
  | method _ => "method"
  | embedded _ => "embedded type"

def detail : Change → String
  | field change => change.type
  | method change => change.signature
  | embedded change => "embedded in " ++ change.block.name

end Change

structure ModelChange where
  path : String
  model : String
  fieldsAdded : List FieldChange
  fieldsRemoved : List FieldChange
  methodsAdded : List MethodChange
  methodsRemoved : List MethodChange
  embeddedAdded : List EmbeddedChange
  embeddedRemoved : List EmbeddedChange
  deriving Repr, DecidableEq

namespace ModelChange

def ofPath (path : String) : ModelChange :=
  ⟨path, ModelName.ofPath path, [], [], [], [], [], []⟩

def push (model : ModelChange) : Change → ModelChange
  | .field change =>
      match change.direction with
      | .added => { model with fieldsAdded := model.fieldsAdded ++ [change] }
      | .removed => { model with fieldsRemoved := model.fieldsRemoved ++ [change] }
  | .method change =>
      match change.direction with
      | .added => { model with methodsAdded := model.methodsAdded ++ [change] }
      | .removed => { model with methodsRemoved := model.methodsRemoved ++ [change] }
  | .embedded change =>
      match change.direction with
      | .added => { model with embeddedAdded := model.embeddedAdded ++ [change] }
      | .removed => { model with embeddedRemoved := model.embeddedRemoved ++ [change] }

def changes (model : ModelChange) : List Change :=
  (model.fieldsAdded ++ model.fieldsRemoved).map .field ++
    (model.methodsAdded ++ model.methodsRemoved).map .method ++
    (model.embeddedAdded ++ model.embeddedRemoved).map .embedded

def total (model : ModelChange) : Nat :=
  model.fieldsAdded.length + model.fieldsRemoved.length + model.methodsAdded.length +
    model.methodsRemoved.length + model.embeddedAdded.length + model.embeddedRemoved.length

def hasChanges (model : ModelChange) : Bool := model.total > 0

end ModelChange

end ReleaseDrift
