import ReleaseDrift.Json.Basic

/-!
Schema documents: schemas by name.
-/

namespace ReleaseDrift

structure SchemaDocument where
  schemas : List (String × Json) := []
  deriving Repr

namespace SchemaDocument

/-- The schemas of a whole document stand under its components; a map of schemas may also stand
    alone. Any other value holds no schema. -/
def ofJson (value : Json) : SchemaDocument :=
  let holder := match value.member? "components" with
    | some (.obj components) => (SortedMap.get? components "schemas").getD .null
    | _ => value
  { schemas := holder.obj?.getD [] }

def get? (document : SchemaDocument) (name : String) : Option Json :=
  SortedMap.get? document.schemas name

def insert (document : SchemaDocument) (name : String) (schema : Json) : SchemaDocument :=
  { schemas := SortedMap.insert name schema document.schemas }

def names (document : SchemaDocument) : List String := document.schemas.map Prod.fst

def size (document : SchemaDocument) : Nat := document.schemas.length

def isEmpty (document : SchemaDocument) : Bool := document.schemas.isEmpty

end SchemaDocument

end ReleaseDrift
