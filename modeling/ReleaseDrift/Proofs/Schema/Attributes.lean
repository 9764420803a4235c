import ReleaseDrift.Proofs.SortedMap
import ReleaseDrift.Schema.Property

/-!
What a property takes from its value: the type that the value gives or refers to, null from each
place that can say it, and nothing from members of other names.
-/

namespace ReleaseDrift.Property

theorem bind_bool?_eq_some_iff (value? : Option Json) (flag : Bool) :
    value?.bind (·.bool?) = some flag ↔ value? = some (.bool flag) := by
  cases value? with
  | none => simp
  | some value => cases value <;> simp [Json.bool?]

theorem bind_str?_eq_some_iff (value? : Option Json) (text : String) :
    value?.bind (·.str?) = some text ↔ value? = some (.str text) := by
  cases value? with
  | none => simp
  | some value => cases value <;> simp [Json.str?]

theorem bind_obj?_eq_some_iff (value? : Option Json) (members : Members) :
    value?.bind (·.obj?) = some members ↔ value? = some (.obj members) := by
  cases value? with
  | none => simp
  | some value => cases value <;> simp [Json.obj?]

theorem flag_eq_true_iff (members : Members) (name : String) :
    flag members name = true ↔ field? members name = some (.bool true) := by
  rw [flag, ← bind_bool?_eq_some_iff]
  cases (field? members name).bind (·.bool?) <;> simp

theorem text?_eq_some_iff (members : Members) (name text : String) :
    text? members name = some text ↔ field? members name = some (.str text) :=
  bind_str?_eq_some_iff _ _

theorem mem_list_iff (members : Members) (name : String) (item : Json) :
    item ∈ list members name ↔
      ∃ items, field? members name = some (.arr items) ∧ item ∈ items := by
  rw [list]
  cases field? members name with
  | none => simp
  | some value => cases value <;> simp [Json.arr?]

theorem itemType?_cons (name : String) (value : Json) (rest : Members) :
    itemType? ((name, value) :: rest) =
      if name = "items" then value.obj?.map fun item => typeOf (.obj item)
      else itemType? rest := by
  cases value <;> rfl

theorem itemType?_eq (members : Members) :
    itemType? members =
      ((field? members "items").bind (·.obj?)).map fun item => typeOf (.obj item) := by
  induction members with
  | nil => rfl
  | cons entry members ih =>
      obtain ⟨name, value⟩ := entry
      rw [itemType?_cons, field?, SortedMap.get?_cons, ih, field?]
      by_cases items : name = "items"
      · rw [if_pos items, if_pos items.symm, Option.bind_some]
      · rw [if_neg items, if_neg (Ne.symm items)]

theorem member?_eq (value : Json) (name : String) :
    value.member? name = field? (value.obj?.getD []) name := by
  cases value <;> rfl

/-- A type by its name, or a list of types of which it is the first that is not null. -/
def GivesType (value : Json) (type : String) : Prop :=
  value.member? "type" = some (.str type) ∨
    ∃ types nulls names, value.member? "type" = some (.arr types) ∧
      types.filterMap (·.str?) = nulls ++ type :: names ∧ (∀ name ∈ nulls, name = "null") ∧
        type ≠ "null"

def SaysNull (value : Json) : Prop :=
  value.member? "nullable" = some (.bool true) ∨
    (∃ types, value.member? "type" = some (.arr types) ∧ .str "null" ∈ types) ∨
    ∃ choice ∈ ["anyOf", "oneOf"], ∃ branches, value.member? choice = some (.arr branches) ∧
      ∃ branch ∈ branches, branch.member? "nullable" = some (.bool true) ∨
        branch.member? "type" = some (.str "null")

theorem explicitType?_eq_some_iff (value : Json) (type : String) :
    explicitType? (value.obj?.getD []) = some type ↔ GivesType value type := by
  rw [explicitType?, GivesType, member?_eq]
  cases field? (value.obj?.getD []) "type" with
  | none => simp
  | some given =>
      cases given with
      | arr types =>
          simp only [List.find?_eq_some_iff_append, Option.some.injEq, Json.arr.injEq,
            reduceCtorEq, false_or]
          constructor
          · rintro ⟨proper, nulls, names, split, null⟩
            exact ⟨types, nulls, names, rfl, split, by simpa using null, by simpa using proper⟩
          · rintro ⟨_, nulls, names, rfl, split, null, proper⟩
            exact ⟨by simpa using proper, nulls, names, split, by simpa using null⟩
      | _ => simp

theorem isNullable_iff (value : Json) :
    isNullable (value.obj?.getD []) = true ↔ SaysNull value := by
  have string (type : Json) : type.str? = some "null" ↔ .str "null" = type := by
    cases type <;> simp [Json.str?, eq_comm]
  simp only [isNullable, SaysNull, member?_eq value, Bool.or_eq_true, flag_eq_true_iff,
    List.any_eq_true, mem_list_iff, beq_iff_eq, string, bind_bool?_eq_some_iff,
    bind_str?_eq_some_iff, or_assoc, exists_eq_right']
  refine or_congr_right (or_congr_right ?_)
  refine exists_congr fun choice => and_congr_right fun _ => ?_
  constructor
  · rintro ⟨branch, ⟨branches, held, member⟩, null⟩
    exact ⟨branches, held, branch, member, null⟩
  · rintro ⟨branches, held, branch, member, null⟩
    exact ⟨branch, ⟨branches, held, member⟩, null⟩

def attributes : List String :=
  ["type", "items", "$ref", "anyOf", "oneOf", "allOf", "nullable", "description", "enum", "format",
    "pattern", "minLength", "maxLength", "minimum", "maximum", "default", "example", "deprecated",
    "readOnly", "writeOnly"]

theorem ofJson_congr {value other : Json}
    (same : ∀ name ∈ attributes, other.member? name = value.member? name) (required : Bool) :
    ofJson other required = ofJson value required := by
  simp only [member?_eq] at same
  have kept {name : String} (known : attributes.contains name = true) :
      field? (other.obj?.getD []) name = field? (value.obj?.getD []) name :=
    same name (List.contains_iff_mem.mp known)
  have explicit : explicitType? (other.obj?.getD []) = explicitType? (value.obj?.getD []) := by
    rw [explicitType?, kept (by decide), explicitType?]
  have base : baseType (other.obj?.getD []) = baseType (value.obj?.getD []) := by
    simp (disch := decide) only [baseType, explicit, reference?, singleReference?, text?, list,
      kept]
  have type : typeOf (.obj (other.obj?.getD [])) = typeOf (.obj (value.obj?.getD [])) := by
    rw [typeOf, typeOf, itemType?_eq, itemType?_eq, kept (by decide), isArray, isArray, explicit,
      base]
  have null : isNullable (other.obj?.getD []) = isNullable (value.obj?.getD []) := by
    simp (disch := decide) only [isNullable, List.any_cons, List.any_nil, flag, list, kept]
  simp (disch := decide) only [ofJson, type, null, text?, flag, list, kept]

def references (value : Json) : List (List String) :=
  ((value.member? "$ref").bind (·.str?)).toList ::
    ["anyOf", "oneOf", "allOf"].map fun composition =>
      (list (value.obj?.getD []) composition).filterMap fun branch =>
        (branch.member? "$ref").bind (·.str?)

def single? : List String → Option String
  | [reference] => some reference
  | _ => none

theorem single?_eq_none_iff (references : List String) :
    single? references = none ↔ references.length ≠ 1 := by
  match references with
  | [] | [_] | _ :: _ :: _ => simp [single?]

theorem reference?_eq (value : Json) :
    reference? (value.obj?.getD []) =
      ((references value).findSome? single?).map referenceName := by
  have own (reference : Option String) : single? reference.toList = reference := by
    cases reference <;> rfl
  have composed (members : Members) (composition : String) :
      singleReference? members composition =
        single? ((list members composition).filterMap fun branch =>
          (branch.member? "$ref").bind (·.str?)) := rfl
  have later (others : List String) (rest : List (List String)) :
      (others :: rest).findSome? single? = (single? others).or (rest.findSome? single?) := by
    rw [List.findSome?_cons]
    cases single? others <;> rfl
  rw [reference?, references, later, own, member?_eq, ← text?]
  simp only [composed, List.map_cons, List.map_nil, later, List.findSome?_nil, Option.or_none,
    Option.orElse_eq_or, Option.orElse_eq_orElse]

/-- A property as it is read off a value. -/
structure IsReadOf (value : Json) (property : Property) : Prop where
  named : ∀ type, GivesType value type → type ≠ "array" → property.type = type
  items : GivesType value "array" → ∀ item, value.member? "items" = some (.obj item) →
    (ofJson (.obj item) false).type ≠ unknown →
      property.type = "array<" ++ (ofJson (.obj item) false).type ++ ">"
  array : GivesType value "array" →
    (∀ item, value.member? "items" = some (.obj item) →
      (ofJson (.obj item) false).type = unknown) → property.type = "array"
  referred : (∀ type, ¬ GivesType value type) → ∀ before reference after,
    references value = before ++ [reference] :: after →
      (∀ others ∈ before, others.length ≠ 1) → property.type = referenceName reference
  unreferred : (∀ type, ¬ GivesType value type) →
    (∀ others ∈ references value, others.length ≠ 1) → property.type = unknown
  nullable : property.nullable = true ↔ SaysNull value
  /-- Members of other names have no part in it. -/
  attributes : ∀ other : Json, (∀ name ∈ attributes, other.member? name = value.member? name) →
    ofJson other property.required = property
  noObject : value.obj? = none → property = { type := unknown, required := property.required }

theorem type_of_givesType {value : Json} {type : String} (given : GivesType value type)
    (other : type ≠ "array") (required : Bool) : (ofJson value required).type = type := by
  have explicit := (explicitType?_eq_some_iff value type).mpr given
  simp [ofJson, typeOf, isArray, baseType, explicit, other]

theorem type_of_array {value : Json} (given : GivesType value "array") (required : Bool) :
    (ofJson value required).type =
      match itemType? (value.obj?.getD []) with
      | some item => if item = unknown then "array" else "array<" ++ item ++ ">"
      | none => "array" := by
  have explicit := (explicitType?_eq_some_iff value "array").mpr given
  simp only [ofJson, typeOf, isArray, explicit]
  rfl

theorem type_of_noType {value : Json} (noType : ∀ type, ¬ GivesType value type)
    (required : Bool) :
    (ofJson value required).type =
      (((references value).findSome? single?).map referenceName).getD unknown := by
  have explicit : explicitType? (value.obj?.getD []) = none := by
    rw [Option.eq_none_iff_forall_ne_some]
    exact fun type found => noType type ((explicitType?_eq_some_iff value type).mp found)
  simp [ofJson, typeOf, isArray, baseType, explicit, reference?_eq]

theorem ofJson_isReadOf (value : Json) (required : Bool) :
    (ofJson value required).IsReadOf value where
  named := fun type given other => type_of_givesType given other required
  items := fun given item held known => by
    rw [member?_eq] at held
    rw [type_of_array given, itemType?_eq, held]
    exact if_neg known
  array := fun given untyped => by
    rw [type_of_array given, itemType?_eq]
    cases held : (field? (value.obj?.getD []) "items").bind (·.obj?) with
    | none => rfl
    | some item =>
        have object : value.member? "items" = some (.obj item) := by
          rw [member?_eq]
          exact (bind_obj?_eq_some_iff _ _).mp held
        exact if_pos (untyped item object)
  referred := fun noType before reference after split others => by
    have silent : before.findSome? single? = none := by
      simpa [single?_eq_none_iff] using others
    rw [type_of_noType noType, split, List.findSome?_append, silent, Option.none_or,
      List.findSome?_cons]
    rfl
  unreferred := fun noType others => by
    have silent : (references value).findSome? single? = none := by
      simpa [single?_eq_none_iff] using others
    rw [type_of_noType noType, silent]
    rfl
  nullable := isNullable_iff value
  attributes := fun other same => ofJson_congr same required
  noObject := fun none => by
    rw [ofJson, none]
    rfl

end ReleaseDrift.Property
