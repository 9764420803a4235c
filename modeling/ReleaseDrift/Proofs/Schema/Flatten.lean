import ReleaseDrift.Proofs.SortedMap
import ReleaseDrift.Schema.Property

/-!
Flattening in two steps: the composition of a schema settles which value is declared for each
property, and the property is read off that value alone.
-/

namespace ReleaseDrift.Property

open SortedMap (Ascending get?)

def declared (schema : Json) : List (String × Json) :=
  (Gathered.add maxComposition {} schema).properties

def requires (schema : Json) (name : String) : Bool :=
  (Gathered.add maxComposition {} schema).required.contains name

theorem get?_flatten (schema : Json) (name : String) :
    get? (flatten schema) name =
      (get? (declared schema) name).map fun value => ofJson value (requires schema name) :=
  SortedMap.get?_map (fun name value => ofJson value (requires schema name)) name (declared schema)

namespace Gathered

variable {gathered : Gathered}

theorem addOwn_ascending (ascending : Ascending gathered.properties) (members : Members) :
    Ascending (gathered.addOwn members).properties :=
  ascending.foldl_insert _

theorem add_ascending (levels : Nat) (schema : Json) (ascending : Ascending gathered.properties) :
    Ascending (add levels gathered schema).properties := by
  induction levels generalizing gathered schema with
  | zero =>
      cases schema with
      | obj members => exact addOwn_ascending ascending members
      | _ => exact ascending
  | succ levels ih =>
      cases schema with
      | obj members =>
          refine addOwn_ascending ?_ members
          induction list members "allOf" generalizing gathered with
          | nil => exact ascending
          | cons branch branches rest => exact rest (ih branch ascending)
      | _ => exact ascending

end Gathered

theorem declared_ascending (schema : Json) : Ascending (declared schema) :=
  Gathered.add_ascending maxComposition schema List.Pairwise.nil

theorem flatten_ascending (schema : Json) : Ascending (flatten schema) :=
  (declared_ascending schema).map fun name value => ofJson value (requires schema name)

end ReleaseDrift.Property
