import ReleaseDrift.Json.Basic
import ReleaseDrift.Text.Basic

/-!
Properties of a schema, gathered over its composition.
-/

namespace ReleaseDrift

open Text

structure PropertyMetadata where
  description : Option String := none
  enumValues : List Json := []
  format : Option String := none
  pattern : Option String := none
  minLength : Option Nat := none
  maxLength : Option Nat := none
  minimum : Option Float := none
  maximum : Option Float := none
  default : Option Json := none
  example? : Option Json := none
  deprecated : Bool := false
  readOnly : Bool := false
  writeOnly : Bool := false
  deriving Repr

structure Property where
  type : String := ""
  required : Bool := false
  nullable : Bool := false
  metadata : PropertyMetadata := {}
  deriving Repr

namespace Property

abbrev Members := List (String × Json)

def field? (members : Members) (name : String) : Option Json := SortedMap.get? members name

def text? (members : Members) (name : String) : Option String := (field? members name).bind (·.str?)

def flag (members : Members) (name : String) : Bool :=
  ((field? members name).bind (·.bool?)).getD false

def list (members : Members) (name : String) : List Json :=
  ((field? members name).bind (·.arr?)).getD []

def referenceName (reference : String) : String :=
  String.ofList (((cutLast? ['/'] reference.toList).map Prod.snd).getD reference.toList)

def explicitType? (members : Members) : Option String :=
  match field? members "type" with
  | some (.str type) => some type
  | some (.arr types) => (types.filterMap (·.str?)).find? (· != "null")
  | _ => none

def singleReference? (members : Members) (composition : String) : Option String :=
  match (list members composition).filterMap fun branch =>
      (branch.member? "$ref").bind (·.str?) with
  | [reference] => some reference
  | _ => none

def reference? (members : Members) : Option String :=
  ((text? members "$ref") <|> singleReference? members "anyOf" <|>
    singleReference? members "oneOf" <|> singleReference? members "allOf").map referenceName

def unknown : String := "unknown"

def baseType (members : Members) : String :=
  (explicitType? members <|> reference? members).getD unknown

def isArray (members : Members) : Bool := explicitType? members == some "array"

mutual

def typeOf : Json → String
  | .obj members =>
      if isArray members then
        match itemType? members with
        | some item => if item = unknown then "array" else "array<" ++ item ++ ">"
        | none => "array"
      else baseType members
  | _ => unknown

def itemType? : List (String × Json) → Option String
  | [] => none
  | (name, value) :: rest =>
      if name = "items" then
        match value with
        | .obj members => some (typeOf (.obj members))
        | _ => none
      else itemType? rest

end

/-- May the value be null? So says a flag, a type among several, or a branch of a choice. -/
def isNullable (members : Members) : Bool :=
  flag members "nullable" ||
    (list members "type").any (fun type => type.str? == some "null") ||
    ["anyOf", "oneOf"].any fun composition =>
      (list members composition).any fun branch =>
        (branch.member? "nullable").bind (·.bool?) == some true ||
          (branch.member? "type").bind (·.str?) == some "null"

def ofJson (value : Json) (required : Bool) : Property :=
  let members := value.obj?.getD []
  { type := typeOf (.obj members)
    required
    nullable := isNullable members
    metadata :=
      { description := text? members "description"
        enumValues := list members "enum"
        format := text? members "format"
        pattern := text? members "pattern"
        minLength := (field? members "minLength").bind (·.nat?)
        maxLength := (field? members "maxLength").bind (·.nat?)
        minimum := (field? members "minimum").bind (·.float?)
        maximum := (field? members "maximum").bind (·.float?)
        default := field? members "default"
        example? := field? members "example"
        deprecated := flag members "deprecated"
        readOnly := flag members "readOnly"
        writeOnly := flag members "writeOnly" } }

def maxComposition : Nat := 16

structure Gathered where
  properties : List (String × Json) := []
  required : List String := []

def Gathered.addOwn (gathered : Gathered) (members : Members) : Gathered :=
  { properties :=
      (((field? members "properties").bind (·.obj?)).getD []).foldl
        (fun map (name, value) => SortedMap.insert name value map) gathered.properties
    required := gathered.required ++ (list members "required").filterMap (·.str?) }

def Gathered.add : (levels : Nat) → Gathered → Json → Gathered
  | 0, gathered, .obj members => gathered.addOwn members
  | levels + 1, gathered, .obj members =>
      ((list members "allOf").foldl (Gathered.add levels) gathered).addOwn members
  | _, gathered, _ => gathered

/-- The properties of a schema with those of its composition. A later declaration replaces an
    earlier one; a name is required when any part of the composition requires it. -/
def flatten (schema : Json) : List (String × Property) :=
  let gathered := Gathered.add maxComposition {} schema
  gathered.properties.map fun (name, value) =>
    (name, ofJson value (gathered.required.contains name))

end Property

end ReleaseDrift
