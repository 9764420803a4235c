import ReleaseDrift.Proofs.Schema.Attributes
import ReleaseDrift.Proofs.Schema.Flatten
import ReleaseDrift.Proofs.Schema.Reconstruction

/-!
The two spellings of a type that may be null: a flag next to the type, and a list of the type and
`null`. They read alike in a property and in its items. In a branch of a choice only the flag is
heard, so a property whose null is said by such flags alone loses it when they are respelled.
-/

namespace ReleaseDrift

open SortedMap (get?)

namespace Property

def flaggedType? (members : Members) : Option String :=
  if flag members "nullable" then (text? members "type").filter (· != "null") else none

def listNull (members : Members) : Members :=
  match flaggedType? members with
  | some type =>
      SortedMap.insert "type" (.arr [.str type, .str "null"]) (SortedMap.erase members "nullable")
  | none => members

mutual

/-- A property with the flags of its own, of its items and of its branches written as lists. -/
def respell : Json → Json
  | .obj members => .obj (listNull (respellMembers members))
  | value => value

def respellMembers : Members → Members
  | [] => []
  | (name, value) :: rest =>
      (name,
        if name = "items" then respell value
        else if name = "anyOf" ∨ name = "oneOf" then respellBranches value
        else value) :: respellMembers rest

def respellBranches : Json → Json
  | .arr branches => .arr (respellAll branches)
  | value => value

def respellAll : List Json → List Json
  | [] => []
  | branch :: rest => respell branch :: respellAll rest

end

def respellMember (name : String) (value : Json) : Json :=
  if name = "items" then respell value
  else if name = "anyOf" ∨ name = "oneOf" then respellBranches value
  else value

def respelled (members : Members) : Members := listNull (respellMembers members)

theorem respell_obj (members : Members) : respell (.obj members) = .obj (respelled members) := rfl

theorem respellMembers_eq (members : Members) :
    respellMembers members = members.map fun entry => (entry.1, respellMember entry.1 entry.2) := by
  induction members with
  | nil => rfl
  | cons entry members ih => rw [respellMembers, ih, List.map_cons, respellMember]

theorem respellAll_eq (branches : List Json) : respellAll branches = branches.map respell := by
  induction branches with
  | nil => rfl
  | cons branch branches ih => rw [respellAll, ih, List.map_cons]

theorem field?_respellMembers (members : Members) (name : String) :
    field? (respellMembers members) name = (field? members name).map (respellMember name) := by
  rw [respellMembers_eq]
  exact SortedMap.get?_map respellMember name members

theorem field?_respellMembers_of_notMem (members : Members) {name : String}
    (plain : name ∉ ["items", "anyOf", "oneOf"]) :
    field? (respellMembers members) name = field? members name := by
  have kept : respellMember name = id := by
    funext value
    simp only [List.mem_cons, List.not_mem_nil, or_false, not_or] at plain
    simp [respellMember, plain]
  rw [field?_respellMembers, kept, Option.map_id, id]

theorem field?_listNull_of_notMem (members : Members) {name : String}
    (plain : name ∉ ["type", "nullable"]) :
    field? (listNull members) name = field? members name := by
  simp only [List.mem_cons, List.not_mem_nil, or_false, not_or] at plain
  unfold listNull
  split
  · rw [field?, SortedMap.get?_insert, if_neg plain.1, SortedMap.get?_erase, if_neg plain.2, field?]
  · rfl

theorem field?_respelled (members : Members) {name : String}
    (plain : name ∉ ["type", "nullable", "items", "anyOf", "oneOf"]) :
    field? (respelled members) name = field? members name := by
  rw [respelled, field?_listNull_of_notMem, field?_respellMembers_of_notMem]
  all_goals
    simp only [List.mem_cons, List.not_mem_nil, or_false, not_or] at plain ⊢
    simp [plain]

theorem listNull_cases (members : Members) :
    (flaggedType? members = none ∧ listNull members = members) ∨
      ∃ type, flaggedType? members = some type ∧ type ≠ "null" ∧
        field? members "nullable" = some (.bool true) ∧ field? members "type" = some (.str type) ∧
        field? (listNull members) "nullable" = none ∧
        field? (listNull members) "type" = some (.arr [.str type, .str "null"]) := by
  cases flagged : flaggedType? members with
  | none => exact Or.inl ⟨rfl, by rw [listNull, flagged]⟩
  | some type =>
      have listed : listNull members = SortedMap.insert "type" (.arr [.str type, .str "null"])
          (SortedMap.erase members "nullable") := by rw [listNull, flagged]
      rw [flaggedType?, Option.ite_none_right_eq_some, Option.filter_eq_some_iff,
        flag_eq_true_iff, text?_eq_some_iff, bne_iff_ne] at flagged
      obtain ⟨nullable, text, proper⟩ := flagged
      refine Or.inr ⟨type, rfl, proper, nullable, text, ?_, ?_⟩
      · rw [listed, field?, SortedMap.get?_insert, if_neg (by decide), SortedMap.get?_erase,
          if_pos rfl]
      · rw [listed, field?, SortedMap.get?_insert, if_pos rfl]

theorem flaggedType?_respellMembers (members : Members) :
    flaggedType? (respellMembers members) = flaggedType? members := by
  have nullable : flag (respellMembers members) "nullable" = flag members "nullable" := by
    rw [flag, field?_respellMembers_of_notMem members (by decide), flag]
  have type : text? (respellMembers members) "type" = text? members "type" := by
    rw [text?, field?_respellMembers_of_notMem members (by decide), text?]
  rw [flaggedType?, nullable, type, flaggedType?]

theorem explicitType?_listNull (members : Members) :
    explicitType? (listNull members) = explicitType? members := by
  rcases listNull_cases members with ⟨_, same⟩ | ⟨type, _, proper, _, before, _, after⟩
  · rw [same]
  · simp [explicitType?, before, after, proper, Json.str?]

theorem explicitType?_respelled (members : Members) :
    explicitType? (respelled members) = explicitType? members := by
  rw [respelled, explicitType?_listNull]
  simp (disch := decide) only [explicitType?, field?_respellMembers_of_notMem]

theorem list_respelled (members : Members) {composition : String}
    (choice : composition ∈ ["anyOf", "oneOf"]) :
    list (respelled members) composition = (list members composition).map respell := by
  have nested : respellMember composition = respellBranches := by
    rcases List.mem_pair.mp choice with rfl | rfl <;> rfl
  have plain : composition ∉ ["type", "nullable"] := by
    rcases List.mem_pair.mp choice with rfl | rfl <;> decide
  rw [list, respelled, field?_listNull_of_notMem _ plain, field?_respellMembers, nested, list]
  cases field? members composition with
  | none => rfl
  | some value =>
      cases value with
      | arr branches => exact respellAll_eq branches
      | _ => rfl

theorem member?_respell (value : Json) {name : String}
    (plain : name ∉ ["type", "nullable", "items", "anyOf", "oneOf"]) :
    (respell value).member? name = value.member? name := by
  cases value with
  | obj members => exact field?_respelled members plain
  | _ => rfl

theorem singleReference?_respelled (members : Members) {composition : String}
    (known : composition ∈ ["anyOf", "oneOf", "allOf"]) :
    singleReference? (respelled members) composition = singleReference? members composition := by
  unfold singleReference?
  by_cases choice : composition ∈ ["anyOf", "oneOf"]
  · rw [list_respelled members choice, List.filterMap_map]
    congr 2
    funext branch
    rw [Function.comp_apply, member?_respell branch (by decide)]
  · have parts : composition = "allOf" := by
      simp only [List.mem_cons, List.not_mem_nil, or_false] at known choice
      tauto
    subst parts
    rw [list, field?_respelled members (by decide), list]

theorem baseType_respelled (members : Members) :
    baseType (respelled members) = baseType members := by
  rw [baseType, explicitType?_respelled, reference?, text?, field?_respelled members (by decide),
    singleReference?_respelled members (by decide), singleReference?_respelled members (by decide),
    singleReference?_respelled members (by decide), baseType, reference?, text?]

mutual

theorem typeOf_respell : ∀ value : Json, typeOf (respell value) = typeOf value
  | .obj members => by
      have items : itemType? (respelled members) = itemType? members := by
        rw [itemType?_eq, respelled, field?_listNull_of_notMem _ (by decide), ← itemType?_eq,
          itemType?_respellMembers members]
      rw [respell_obj, typeOf, typeOf, items, isArray, explicitType?_respelled, isArray,
        baseType_respelled]
  | .null | .bool _ | .num _ | .str _ | .arr _ => rfl

theorem itemType?_respellMembers :
    ∀ members : Members, itemType? (respellMembers members) = itemType? members
  | [] => rfl
  | (name, value) :: rest => by
      rw [respellMembers, itemType?_cons, itemType?_cons, itemType?_respellMembers rest]
      by_cases items : name = "items"
      · have type := typeOf_respell value
        rw [if_pos items, if_pos items, if_pos items]
        cases value with
        | obj item => exact congrArg some type
        | _ => rfl
      · rw [if_neg items, if_neg items]

end

/-! ## Null -/

def saysNull (members : Members) : Bool :=
  flag members "nullable" || (list members "type").any (fun type => type.str? == some "null")

/-- What is heard of a branch of a choice: of its type only a name, not a list. -/
def branchSaysNull (branch : Json) : Bool :=
  (branch.member? "nullable").bind (·.bool?) == some true ||
    (branch.member? "type").bind (·.str?) == some "null"

def branches (members : Members) : List Json := list members "anyOf" ++ list members "oneOf"

theorem branchSaysNull_obj (members : Members) :
    branchSaysNull (.obj members) =
      ((field? members "nullable").bind (·.bool?) == some true ||
        (field? members "type").bind (·.str?) == some "null") := rfl

def isFlagged (branch : Json) : Bool := (branch.obj?.bind flaggedType?).isSome

theorem isNullable_eq (members : Members) :
    isNullable members = (saysNull members || (branches members).any branchSaysNull) := by
  simp only [isNullable, List.any_cons, List.any_nil, Bool.or_false, branches, List.any_append,
    saysNull]
  rfl

theorem saysNull_listNull (members : Members) : saysNull (listNull members) = saysNull members := by
  rcases listNull_cases members with ⟨_, same⟩ | ⟨type, _, _, flagged, _, _, listed⟩
  · rw [same]
  · have before : saysNull members = true := by simp [saysNull, flag, flagged, Json.bool?]
    have after : saysNull (listNull members) = true := by
      simp [saysNull, list, listed, Json.arr?, Json.str?]
    rw [before, after]

theorem saysNull_respelled (members : Members) :
    saysNull (respelled members) = saysNull members := by
  rw [respelled, saysNull_listNull]
  simp (disch := decide) only [saysNull, flag, list, field?_respellMembers_of_notMem]

theorem branches_respelled (members : Members) :
    branches (respelled members) = (branches members).map respell := by
  rw [branches, list_respelled members (by decide), list_respelled members (by decide), branches,
    List.map_append]

theorem branchSaysNull_respell (branch : Json) :
    branchSaysNull (respell branch) = (branchSaysNull branch && !isFlagged branch) := by
  cases branch with
  | obj members =>
      have inner : branchSaysNull (.obj (respellMembers members)) =
          branchSaysNull (.obj members) := by
        simp (disch := decide) only [branchSaysNull_obj, field?_respellMembers_of_notMem]
      rw [respell, ← inner, isFlagged, Json.obj?, Option.bind_some, ← flaggedType?_respellMembers]
      rcases listNull_cases (respellMembers members) with
        ⟨unflagged, same⟩ | ⟨type, flagged, _, _, _, unset, listed⟩
      · simp [same, unflagged]
      · simp [branchSaysNull_obj, unset, listed, flagged, Json.str?]
  | _ => rfl

theorem branchSaysNull_of_isFlagged {branch : Json} (flagged : isFlagged branch = true) :
    branchSaysNull branch = true := by
  cases branch with
  | obj members =>
      rcases listNull_cases members with ⟨unflagged, _⟩ | ⟨_, _, _, nullable, _⟩
      · simp [isFlagged, Json.obj?, unflagged] at flagged
      · simp [branchSaysNull_obj, nullable, Json.bool?]
  | _ => contradiction

theorem any_heard_eq (choice : List Json) :
    (choice.any fun branch => branchSaysNull branch && !isFlagged branch) =
      (choice.any branchSaysNull &&
        !(choice.any isFlagged &&
          choice.all fun branch => branchSaysNull branch == isFlagged branch)) := by
  by_cases heard : ∃ branch ∈ choice, branchSaysNull branch = true ∧ isFlagged branch = false
  · obtain ⟨branch, member, null, unflagged⟩ := heard
    have before : choice.any branchSaysNull = true := List.any_eq_true.mpr ⟨branch, member, null⟩
    have differs : (choice.all fun branch => branchSaysNull branch == isFlagged branch) = false :=
      List.all_eq_false.mpr ⟨branch, member, by simp [null, unflagged]⟩
    have after : (choice.any fun branch => branchSaysNull branch && !isFlagged branch) = true :=
      List.any_eq_true.mpr ⟨branch, member, by simp [null, unflagged]⟩
    rw [after, before, differs, Bool.and_false, Bool.not_false, Bool.and_true]
  · have same (branch) (member : branch ∈ choice) : branchSaysNull branch = isFlagged branch := by
      cases flagged : isFlagged branch with
      | true => exact branchSaysNull_of_isFlagged flagged
      | false => exact Bool.eq_false_iff.mpr fun null => heard ⟨branch, member, null, flagged⟩
    have any : choice.any isFlagged = choice.any branchSaysNull := by
      rw [Bool.eq_iff_iff, List.any_eq_true, List.any_eq_true]
      exact exists_congr fun branch => and_congr_right fun member => by rw [same branch member]
    have all : (choice.all fun branch => branchSaysNull branch == isFlagged branch) = true :=
      List.all_eq_true.mpr fun branch member => beq_iff_eq.mpr (same branch member)
    have after : (choice.any fun branch => branchSaysNull branch && !isFlagged branch) = false :=
      List.any_eq_false.mpr fun branch member => by simp [same branch member]
    rw [after, any, all, Bool.and_true, Bool.and_not_self]

/-- Null is said by flags in branches of a choice and by nothing else. -/
def nullByBranchFlags (value : Json) : Bool :=
  let members := value.obj?.getD []
  !saysNull members && ((branches members).any isFlagged &&
    (branches members).all fun branch => branchSaysNull branch == isFlagged branch)

theorem isNullable_respelled (members : Members) :
    isNullable (respelled members) =
      (isNullable members && !nullByBranchFlags (.obj members)) := by
  rw [isNullable_eq, saysNull_respelled, branches_respelled, isNullable_eq, nullByBranchFlags,
    Json.obj?, Option.getD_some, List.any_map]
  cases saysNull members with
  | true => rfl
  | false =>
      simp only [Function.comp_def, branchSaysNull_respell, Bool.false_or, Bool.not_false,
        Bool.true_and]
      exact any_heard_eq (branches members)

theorem ofJson_respell (value : Json) (required : Bool) :
    ofJson (respell value) required =
      { ofJson value required with
        nullable := (ofJson value required).nullable && !nullByBranchFlags value } := by
  cases value with
  | obj members =>
      have type := typeOf_respell (.obj members)
      rw [respell_obj] at type ⊢
      simp only [ofJson, Json.obj?, Option.getD_some]
      rw [type, isNullable_respelled]
      simp (disch := decide) only [text?, list, flag, field?_respelled]
  | _ => rfl

/-! ## Schemas -/

def respellProperties : Json → Json
  | .obj properties => .obj (properties.map fun entry => (entry.1, respell entry.2))
  | value => value

mutual

def respellSchema : Json → Json
  | .obj members => .obj (respellDeclarations members)
  | value => value

def respellDeclarations : Members → Members
  | [] => []
  | (name, value) :: rest =>
      (name,
        if name = "allOf" then respellParts value
        else if name = "properties" then respellProperties value
        else value) :: respellDeclarations rest

def respellParts : Json → Json
  | .arr parts => .arr (respellSchemas parts)
  | value => value

def respellSchemas : List Json → List Json
  | [] => []
  | part :: rest => respellSchema part :: respellSchemas rest

end

def respellDeclaration (name : String) (value : Json) : Json :=
  if name = "allOf" then respellParts value
  else if name = "properties" then respellProperties value
  else value

theorem respellDeclarations_eq (members : Members) :
    respellDeclarations members =
      members.map fun entry => (entry.1, respellDeclaration entry.1 entry.2) := by
  induction members with
  | nil => rfl
  | cons entry members ih => rw [respellDeclarations, ih, List.map_cons, respellDeclaration]

theorem respellSchemas_eq (parts : List Json) : respellSchemas parts = parts.map respellSchema := by
  induction parts with
  | nil => rfl
  | cons part parts ih => rw [respellSchemas, ih, List.map_cons]

theorem field?_respellDeclarations (members : Members) (name : String) :
    field? (respellDeclarations members) name =
      (field? members name).map (respellDeclaration name) := by
  rw [respellDeclarations_eq]
  exact SortedMap.get?_map respellDeclaration name members

namespace Gathered

def respelled (gathered : Gathered) : Gathered :=
  { gathered with
    properties := gathered.properties.map fun entry => (entry.1, respell entry.2) }

theorem addOwn_respelled (gathered : Gathered) (members : Members) :
    gathered.respelled.addOwn (respellDeclarations members) =
      (gathered.addOwn members).respelled := by
  have required : list (respellDeclarations members) "required" = list members "required" := by
    have kept : respellDeclaration "required" = id := rfl
    rw [list, field?_respellDeclarations, kept, Option.map_id, id, list]
  have own : ((field? (respellDeclarations members) "properties").bind (·.obj?)).getD [] =
      (((field? members "properties").bind (·.obj?)).getD []).map
        fun entry => (entry.1, respell entry.2) := by
    have nested : respellDeclaration "properties" = respellProperties := rfl
    rw [field?_respellDeclarations, nested]
    cases field? members "properties" with
    | none => rfl
    | some value => cases value <;> rfl
  rw [addOwn, required, own, addOwn, respelled, respelled,
    SortedMap.map_foldl_insert fun _ => respell]

theorem add_respelled (levels : Nat) (gathered : Gathered) (schema : Json) :
    add levels gathered.respelled (respellSchema schema) =
      (add levels gathered schema).respelled := by
  induction levels generalizing gathered schema with
  | zero =>
      cases schema with
      | obj members => exact addOwn_respelled gathered members
      | _ => rfl
  | succ levels ih =>
      cases schema with
      | obj members =>
          have parts : list (respellDeclarations members) "allOf" =
              (list members "allOf").map respellSchema := by
            have nested : respellDeclaration "allOf" = respellParts := rfl
            rw [list, field?_respellDeclarations, nested, list]
            cases field? members "allOf" with
            | none => rfl
            | some value =>
                cases value with
                | arr parts => exact respellSchemas_eq parts
                | _ => rfl
          rw [respellSchema, add, add, parts, ← addOwn_respelled]
          congr 1
          -- Each part is added to what the parts before it gathered.
          induction list members "allOf" generalizing gathered with
          | nil => rfl
          | cons part rest more =>
              rw [List.map_cons, List.foldl_cons, List.foldl_cons, ih, more]
      | _ => rfl

end Gathered

theorem gathered_respellSchema (schema : Json) :
    Gathered.add maxComposition {} (respellSchema schema) =
      (Gathered.add maxComposition {} schema).respelled :=
  Gathered.add_respelled maxComposition {} schema

theorem declared_respellSchema (schema : Json) :
    declared (respellSchema schema) =
      (declared schema).map fun entry => (entry.1, respell entry.2) := by
  rw [declared, gathered_respellSchema]
  rfl

theorem requires_respellSchema (schema : Json) :
    requires (respellSchema schema) = requires schema := by
  funext name
  rw [requires, gathered_respellSchema]
  rfl

def losesNull (schema : Json) (name : String) : Bool :=
  (get? (declared schema) name).any nullByBranchFlags

theorem get?_flatten_respellSchema (schema : Json) (name : String) :
    get? (flatten (respellSchema schema)) name =
      (get? (flatten schema) name).map fun property =>
        { property with nullable := property.nullable && !losesNull schema name } := by
  rw [get?_flatten, declared_respellSchema, requires_respellSchema, get?_flatten, losesNull,
    SortedMap.get?_map fun _ => respell]
  cases get? (declared schema) name with
  | none => rfl
  | some value => exact congrArg some (ofJson_respell value (requires schema name))

theorem nullable_of_losesNull {schema : Json} {name : String}
    (loses : losesNull schema name = true) :
    ∃ property, get? (flatten schema) name = some property ∧ property.nullable = true := by
  rw [losesNull, Option.any_eq_true] at loses
  obtain ⟨value, declared, lost⟩ := loses
  refine ⟨ofJson value (requires schema name), ?_, ?_⟩
  · rw [get?_flatten, declared, Option.map_some]
  · rw [nullByBranchFlags, Bool.and_eq_true, Bool.and_eq_true, List.any_eq_true] at lost
    obtain ⟨_, ⟨branch, member, flagged⟩, _⟩ := lost
    have heard : (branches (value.obj?.getD [])).any branchSaysNull = true :=
      List.any_eq_true.mpr ⟨branch, member, branchSaysNull_of_isFlagged flagged⟩
    rw [ofJson, isNullable_eq, heard, Bool.or_true]

theorem occurs_respellSchema_iff (schema : Json) (name : String) (kind : PropertyChangeKind) :
    kind.occurs (get? (flatten schema) name) (get? (flatten (respellSchema schema)) name) = true ↔
      kind = .nullableChanged ∧ losesNull schema name = true := by
  rw [get?_flatten_respellSchema]
  cases loses : losesNull schema name with
  | false => cases get? (flatten schema) name <;> cases kind <;> simp [PropertyChangeKind.occurs]
  | true =>
      obtain ⟨property, present, nullable⟩ := nullable_of_losesNull loses
      cases kind <;> simp [PropertyChangeKind.occurs, present, nullable]

end Property

namespace SchemaChange

open Property

/-- Respelling a schema changes nothing but the null of the properties that lose it. -/
theorem compare_respellSchema (name : String) (schema : Json) :
    let change := compare name schema (respellSchema schema)
    (∀ key, get? (flatten (respellSchema schema)) key =
        (get? (flatten schema) key).map fun property =>
          { property with nullable := property.nullable && !losesNull schema key }) ∧
      (∀ record ∈ change.all, record.kind = .nullableChanged) ∧
      (∀ key, key ∈ change.all.map (·.name) ↔ losesNull schema key = true) ∧
      (change.hasChanges = false ↔ ∀ key, losesNull schema key = false) := by
  intro change
  have ascendingOld := flatten_ascending schema
  have ascendingNew := flatten_ascending (respellSchema schema)
  have named (key : String) : key ∈ change.all.map (·.name) ↔ losesNull schema key = true := by
    simp only [change, compare, mem_all_names_iff name ascendingOld ascendingNew,
      occurs_respellSchema_iff, exists_eq_left]
  refine ⟨get?_flatten_respellSchema schema, ?_, named, ?_⟩
  · intro record member
    obtain ⟨kind, occurs, same⟩ := eq_between_of_mem_all ascendingOld ascendingNew member
    obtain ⟨rfl, _⟩ := (occurs_respellSchema_iff schema record.name kind).mp occurs
    exact congrArg (·.kind) same
  · have none : change.hasChanges = false ↔ ∀ key, key ∉ change.all.map (·.name) := by
      rw [hasChanges, Bool.not_eq_false', List.isEmpty_iff, ← List.map_eq_nil_iff,
        List.eq_nil_iff_forall_not_mem]
    simp only [none, named, Bool.not_eq_true]

theorem compare_respellSchema_of_manager :
    let property (branch : Json) : Json :=
      .obj [("properties", .obj [("manager", .obj [("anyOf",
        .arr [.obj [("$ref", .str "#/components/schemas/user")], branch])])])]
    let flagged := property (.obj [("nullable", .bool true), ("type", .str "object")])
    let listed := property (.obj [("type", .arr [.str "object", .str "null"])])
    respellSchema flagged = listed ∧
      (get? (flatten flagged) "manager").map (·.nullable) = some true ∧
      (get? (flatten listed) "manager").map (·.nullable) = some false ∧
      (compare "directory" flagged listed).hasChanges = true := by
  intro property flagged listed
  exact ⟨by rfl, by decide +kernel, by decide +kernel, by decide +kernel⟩

end SchemaChange

end ReleaseDrift
