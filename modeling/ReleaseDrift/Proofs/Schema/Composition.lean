import ReleaseDrift.Proofs.Schema.Attributes
import ReleaseDrift.Proofs.Schema.Flatten

/-!
The properties of a schema by the order in which its composition declares them. Each property is
what the last object that declares it says, and that alone; a name is required when any object of
the composition requires it.
-/

namespace ReleaseDrift.Property

open SortedMap (Ascending get?)

/-- The objects of a composition down to a depth, in the order in which they declare: the branches
    of an object, each with its own before it, and then the object. -/
def nodes : (depth : Nat) → Json → List Members
  | 0, .obj members => [members]
  | depth + 1, .obj members => (list members "allOf").flatMap (nodes depth) ++ [members]
  | _, _ => []

def ownProperties (members : Members) : List (String × Json) :=
  ((field? members "properties").bind (·.obj?)).getD []

def ownRequired (members : Members) : List String :=
  (list members "required").filterMap (·.str?)

def ownValue? (members : Members) (name : String) : Option Json :=
  get? (SortedMap.ofList (ownProperties members)) name

theorem mem_ownRequired_iff (members : Members) (name : String) :
    name ∈ ownRequired members ↔ .str name ∈ list members "required" := by
  rw [ownRequired, List.mem_filterMap]
  constructor
  · rintro ⟨item, member, text⟩
    cases item with
    | str value =>
        cases text
        exact member
    | _ => contradiction
  · intro member
    exact ⟨.str name, member, rfl⟩

theorem isSome_ownValue?_iff (members : Members) (name : String) :
    (ownValue? members name).isSome = true ↔ name ∈ (ownProperties members).map (·.1) := by
  rw [ownValue?]
  induction ownProperties members with
  | nil => simp [SortedMap.ofList, get?]
  | cons entry entries ih =>
      rw [SortedMap.get?_ofList_cons, Option.isSome_or, Bool.or_eq_true, ih, List.map_cons,
        List.mem_cons, or_comm]
      by_cases same : name = entry.1 <;> simp [same]

/-! ## The composition in one line -/

namespace Gathered

theorem add_eq_foldl (depth : Nat) (gathered : Gathered) (schema : Json) :
    add depth gathered schema = (nodes depth schema).foldl addOwn gathered := by
  induction depth generalizing gathered schema with
  | zero => cases schema <;> rfl
  | succ depth ih =>
      cases schema with
      | obj members =>
          have branches : add depth = fun gathered branch =>
              (nodes depth branch).foldl addOwn gathered := by
            funext gathered branch
            exact ih gathered branch
          rw [add, nodes, List.foldl_append, List.foldl_flatMap, branches]
          rfl
      | _ => rfl

theorem get?_addOwn (gathered : Gathered) (members : Members) (name : String) :
    get? (gathered.addOwn members).properties name =
      (ownValue? members name).or (get? gathered.properties name) :=
  SortedMap.get?_foldl_insert name (ownProperties members) gathered.properties

theorem get?_foldl_addOwn (gathered : Gathered) (objects : List Members) (name : String) :
    get? (objects.foldl addOwn gathered).properties name =
      (objects.reverse.findSome? (ownValue? · name)).or (get? gathered.properties name) := by
  induction objects generalizing gathered with
  | nil => rfl
  | cons members objects ih =>
      rw [List.foldl_cons, ih, get?_addOwn, List.reverse_cons, List.findSome?_append,
        List.findSome?_singleton, Option.or_assoc]

theorem required_foldl_addOwn (gathered : Gathered) (objects : List Members) :
    (objects.foldl addOwn gathered).required = gathered.required ++ objects.flatMap ownRequired := by
  induction objects generalizing gathered with
  | nil => exact (List.append_nil _).symm
  | cons members objects ih =>
      rw [List.foldl_cons, ih, List.flatMap_cons, ← List.append_assoc]
      rfl

end Gathered

theorem get?_declared (schema : Json) (name : String) :
    get? (declared schema) name =
      (nodes maxComposition schema).reverse.findSome? (ownValue? · name) := by
  rw [declared, Gathered.add_eq_foldl, Gathered.get?_foldl_addOwn]
  exact Option.or_none

theorem requires_iff (schema : Json) (name : String) :
    requires schema name = true ↔
      ∃ members ∈ nodes maxComposition schema, .str name ∈ list members "required" := by
  rw [requires, Gathered.add_eq_foldl, Gathered.required_foldl_addOwn, List.contains_iff_mem,
    List.nil_append, List.mem_flatMap]
  simp only [mem_ownRequired_iff]

theorem get?_declared_of_last {schema : Json} {before after : List Members} {members : Members}
    (split : nodes maxComposition schema = before ++ members :: after) {name : String} {value : Json}
    (own : ownValue? members name = some value)
    (silent : ∀ later ∈ after, ownValue? later name = none) :
    get? (declared schema) name = some value := by
  have last : after.reverse.findSome? (ownValue? · name) = none := by
    rw [List.findSome?_eq_none_iff]
    intro later member
    exact silent later (List.mem_reverse.mp member)
  rw [get?_declared, split, List.reverse_append, List.reverse_cons, List.append_assoc,
    List.findSome?_append, last, Option.none_or, List.singleton_append, List.findSome?_cons, own]

theorem mem_names_declared_iff (schema : Json) (name : String) :
    name ∈ (declared schema).map (·.1) ↔
      ∃ members ∈ nodes maxComposition schema, name ∈ (ownProperties members).map (·.1) := by
  rw [← SortedMap.contains_iff, SortedMap.contains, get?_declared, List.findSome?_isSome_iff]
  simp only [List.mem_reverse, isSome_ownValue?_iff]

/-! ## What has no part in it -/

def own (members : Members) : List (String × Json) × List String :=
  (ownProperties members, ownRequired members)

theorem flatten_congr {schema other : Json}
    (same : (nodes maxComposition schema).map own = (nodes maxComposition other).map own) :
    flatten schema = flatten other := by
  have byOwn (objects : List Members) : objects.foldl Gathered.addOwn {} =
      (objects.map own).foldl (fun gathered (declared : List (String × Json) × List String) =>
        { properties := declared.1.foldl
            (fun map property => SortedMap.insert property.1 property.2 map) gathered.properties
          required := gathered.required ++ declared.2 }) {} := by
    rw [List.foldl_map]
    rfl
  have gathered : Gathered.add maxComposition {} schema = Gathered.add maxComposition {} other := by
    rw [Gathered.add_eq_foldl, Gathered.add_eq_foldl, byOwn, byOwn, same]
  rw [flatten, flatten, gathered]

/-- The members that say what an object declares. -/
def isDeclaring (name : String) : Bool := ["properties", "required"].contains name

/-- A composition that is left with what its objects declare: other members go, branches that are
    no objects become null, and what lies below the depth goes with its keyword. -/
def stripped : (depth : Nat) → Json → Json
  | 0, .obj members => .obj (members.filter (isDeclaring ·.1))
  | depth + 1, .obj members =>
      .obj (("allOf", .arr ((list members "allOf").map (stripped depth))) ::
        members.filter (isDeclaring ·.1))
  | _, _ => .null

theorem own_filter (members : Members) : own (members.filter (isDeclaring ·.1)) = own members := by
  have kept {name : String} (declaring : isDeclaring name = true) :
      field? (members.filter (isDeclaring ·.1)) name = field? members name := by
    rw [field?, SortedMap.get?_filter_key, if_pos declaring, field?]
  rw [own, ownProperties, ownRequired, list, kept (by decide), kept (by decide)]
  rfl

theorem own_cons_allOf (branches : Json) (members : Members) :
    own (("allOf", branches) :: members) = own members := by
  have kept {name : String} (other : name ≠ "allOf") :
      field? (("allOf", branches) :: members) name = field? members name := by
    rw [field?, SortedMap.get?_cons, if_neg other, field?]
  rw [own, ownProperties, ownRequired, list, kept (by decide), kept (by decide)]
  rfl

theorem map_own_nodes_stripped (depth : Nat) (schema : Json) :
    (nodes depth (stripped depth schema)).map own = (nodes depth schema).map own := by
  induction depth generalizing schema with
  | zero =>
      cases schema with
      | obj members => exact congrArg (fun declared => [declared]) (own_filter members)
      | _ => rfl
  | succ depth ih =>
      cases schema with
      | obj members =>
          have branches : list (("allOf", .arr ((list members "allOf").map (stripped depth))) ::
              members.filter (isDeclaring ·.1)) "allOf" =
                (list members "allOf").map (stripped depth) := rfl
          rw [stripped, nodes, nodes, branches, List.map_append, List.map_append, List.map_flatMap,
            List.map_flatMap, List.flatMap_map, List.map_singleton, List.map_singleton,
            own_cons_allOf, own_filter]
          simp only [ih]
      | _ => rfl

theorem flatten_stripped (schema : Json) :
    flatten (stripped maxComposition schema) = flatten schema :=
  flatten_congr (map_own_nodes_stripped maxComposition schema)

/-- The reading of a composition in which the last writer of a property decides. -/
structure IsLastWriting (schema : Json) (properties : List (String × Property)) : Prop where
  ascending : Ascending properties
  names : ∀ name, name ∈ properties.map (·.1) ↔
    ∃ members ∈ nodes 16 schema, name ∈ (ownProperties members).map (·.1)
  values : ∀ before members after, nodes 16 schema = before ++ members :: after →
    ∀ name value, ownValue? members name = some value →
      (∀ later ∈ after, ownValue? later name = none) →
      ∃ property, get? properties name = some property ∧
        property = { ofJson value false with required := property.required } ∧
        property.IsReadOf value ∧
        (property.required = true ↔
          ∃ any ∈ nodes 16 schema, .str name ∈ list any "required")
  stripped : flatten (stripped 16 schema) = properties
  noObject : schema.obj? = none → properties = []

theorem flatten_isLastWriting (schema : Json) : IsLastWriting schema (flatten schema) where
  ascending := flatten_ascending schema
  names := fun name => by
    have same : (flatten schema).map (·.1) = (declared schema).map (·.1) := by
      rw [flatten, List.map_map]
      rfl
    rw [same]
    exact mem_names_declared_iff schema name
  values := fun before members after split name value own silent => by
    have last := get?_declared_of_last split own silent
    refine ⟨ofJson value (requires schema name), ?_, rfl, ofJson_isReadOf value _,
      requires_iff schema name⟩
    rw [get?_flatten, last, Option.map_some]
  stripped := flatten_stripped schema
  noObject := fun none => by
    cases schema with
    | obj members => contradiction
    | _ => rfl

end ReleaseDrift.Property
