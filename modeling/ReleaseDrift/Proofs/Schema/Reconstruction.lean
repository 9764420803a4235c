import ReleaseDrift.Proofs.SortedMap
import ReleaseDrift.Schema.Change

/-!
The difference between two versions of the properties of a schema. It is complete, since the new
version can be put together from the old one and the difference, and it is exact, since each name
is in those of its lists, and only in those, that say how the two versions differ there.
-/

namespace ReleaseDrift

open SortedMap (Ascending alter get?)

structure Shape where
  type : String
  required : Bool
  nullable : Bool
  deriving DecidableEq

def Property.shape (property : Property) : Shape :=
  { type := property.type, required := property.required, nullable := property.nullable }

def shapes (properties : List (String × Property)) : List (String × Shape) :=
  properties.map fun entry => (entry.1, entry.2.shape)

namespace PropertyChangeKind

/-- Is there a difference of this kind between a property, if there is one, and its successor? -/
def occurs : PropertyChangeKind → (old new : Option Property) → Bool
  | added, none, some _ => true
  | removed, some _, none => true
  | typeChanged, some before, some after => before.type != after.type
  | requiredChanged, some before, some after => before.required != after.required
  | nullableChanged, some before, some after => before.nullable != after.nullable
  | _, _, _ => false

end PropertyChangeKind

namespace PropertyChange

def newShape? (change : PropertyChange) : Option Shape := do
  let type ← change.newType
  let nullable ← change.newNullable
  return { type, required := change.newRequired, nullable }

/-- What a change makes of the property under its name: it puts a new one there, deletes it or
    overwrites the one component that its kind is about. -/
def edit (change : PropertyChange) (before : Option Shape) : Option Shape :=
  match change.kind with
  | .added => change.newShape?
  | .removed => none
  | .typeChanged => before.map fun shape => { shape with type := change.newType.getD shape.type }
  | .requiredChanged => before.map fun shape => { shape with required := change.newRequired }
  | .nullableChanged =>
      before.map fun shape => { shape with nullable := change.newNullable.getD shape.nullable }

def applyAll (records : List PropertyChange) (old : List (String × Shape)) :
    List (String × Shape) :=
  records.foldl (fun map record => alter record.name record.edit map) old

theorem get?_applyAll {records : List PropertyChange}
    (distinct : (records.map (·.name)).Pairwise (· < ·)) (old : List (String × Shape))
    (key : String) :
    get? (applyAll records old) key =
      (records.find? (·.name == key)).elim (get? old key) fun record =>
        record.edit (get? old key) := by
  induction records generalizing old with
  | nil => rfl
  | cons record records ih =>
      obtain ⟨above, distinct⟩ := List.pairwise_cons.mp distinct
      rw [applyAll, List.foldl_cons, ← applyAll, ih distinct, SortedMap.get?_alter]
      by_cases same : record.name = key
      · -- The later records are about greater names and leave this key alone.
        have absent : records.find? (·.name == key) = none := by
          rw [List.find?_eq_none]
          intro other member named
          have below : record.name < other.name := above _ (List.mem_map_of_mem member)
          rw [same, eq_of_beq named] at below
          exact String.lt_irrefl key below
        rw [absent, List.find?_cons_of_pos (by simp [same]), if_pos same.symm, same]
        rfl
      · rw [List.find?_cons_of_neg (by simpa using same), if_neg (Ne.symm same)]

theorem applyAll_ascending (records : List PropertyChange) {old : List (String × Shape)}
    (ascending : Ascending old) : Ascending (applyAll records old) := by
  induction records generalizing old with
  | nil => exact ascending
  | cons record records ih => exact ih (ascending.alter record.name record.edit)

end PropertyChange

namespace SchemaChange

def ofKind (change : SchemaChange) : PropertyChangeKind → List PropertyChange
  | .added => change.added
  | .removed => change.removed
  | .typeChanged => change.typeChanged
  | .requiredChanged => change.requiredChanged
  | .nullableChanged => change.nullableChanged

theorem all_eq (change : SchemaChange) :
    change.all = change.ofKind .added ++ change.ofKind .removed ++ change.ofKind .typeChanged ++
      change.ofKind .requiredChanged ++ change.ofKind .nullableChanged := rfl

theorem mem_all_iff (change : SchemaChange) (record : PropertyChange) :
    record ∈ change.all ↔ ∃ kind, record ∈ change.ofKind kind := by
  rw [all_eq]
  simp only [List.mem_append]
  constructor
  · rintro ((((added | removed) | type) | required) | nullable)
    exacts [⟨_, added⟩, ⟨_, removed⟩, ⟨_, type⟩, ⟨_, required⟩, ⟨_, nullable⟩]
  · rintro ⟨kind, member⟩
    cases kind <;> simp [member]

def apply (change : SchemaChange) (old : List (String × Shape)) : List (String × Shape) :=
  PropertyChange.applyAll change.all old

def record? (kind : PropertyChangeKind) (name : String) (old new : Option Property) :
    Option PropertyChange :=
  if kind.occurs old new then some (.between name kind old new) else none

theorem name_of_record? {kind : PropertyChangeKind} {name : String} {old new : Option Property}
    {record : PropertyChange} (found : record? kind name old new = some record) :
    record.name = name := by
  rw [record?, Option.ite_none_right_eq_some] at found
  cases found.2
  rfl

section Selection

variable {properties : List (String × Property)}
  (select? : String → Property → Option PropertyChange)

theorem find?_filterMap (ascending : Ascending properties)
    (named : ∀ name property record, select? name property = some record → record.name = name)
    (key : String) :
    (properties.filterMap fun entry => select? entry.1 entry.2).find? (·.name == key) =
      (get? properties key).bind (select? key) := by
  induction properties with
  | nil => rfl
  | cons entry properties ih =>
      obtain ⟨name, property⟩ := entry
      have rest := ih (List.pairwise_cons.mp ascending).2
      have fresh := ascending.get?_tail
      rw [SortedMap.get?_cons, List.filterMap_cons]
      by_cases same : key = name
      · subst same
        rw [fresh] at rest
        cases selected : select? key property with
        | none => simpa [selected] using rest
        | some record =>
            have isNamed := named key property record selected
            simp [selected, isNamed]
      · rw [if_neg same, ← rest]
        cases selected : select? name property with
        | none => rfl
        | some record =>
            have isNamed := named name property record selected
            exact List.find?_cons_of_neg (by simpa [isNamed] using Ne.symm same)

theorem names_filterMap_ascending (ascending : Ascending properties)
    (named : ∀ name property record, select? name property = some record → record.name = name) :
    ((properties.filterMap fun entry => select? entry.1 entry.2).map (·.name)).Pairwise
      (· < ·) := by
  rw [List.pairwise_map, List.pairwise_filterMap]
  refine List.Pairwise.imp ?_ ascending
  intro first second below record selected other selectedOther
  rw [named _ _ _ selected, named _ _ _ selectedOther]
  exact below

end Selection

variable {old new : List (String × Property)}

theorem added_between (schema : String) (old new : List (String × Property)) :
    (between schema old new).added =
      new.filterMap fun entry => record? .added entry.1 (get? old entry.1) (some entry.2) := by
  apply List.filterMap_congr
  rintro ⟨name, after⟩ _
  cases found : get? old name <;>
    simp [record?, PropertyChangeKind.occurs, SortedMap.contains, found]

theorem ofKind_between (schema : String) (old new : List (String × Property))
    {kind : PropertyChangeKind} (present : kind ≠ .added) :
    (between schema old new).ofKind kind =
      old.filterMap fun entry => record? kind entry.1 (some entry.2) (get? new entry.1) := by
  cases kind with
  | added => contradiction
  | removed =>
      apply List.filterMap_congr
      rintro ⟨name, before⟩ _
      cases found : get? new name <;>
        simp [record?, PropertyChangeKind.occurs, SortedMap.contains, found]
  | typeChanged | requiredChanged | nullableChanged =>
      apply List.filterMap_congr
      rintro ⟨name, before⟩ _
      cases found : get? new name <;> simp [record?, PropertyChangeKind.occurs, found]

theorem find?_between (schema : String) (ascendingOld : Ascending old)
    (ascendingNew : Ascending new) (kind : PropertyChangeKind) (name : String) :
    ((between schema old new).ofKind kind).find? (·.name == name) =
      record? kind name (get? old name) (get? new name) := by
  -- What is added is picked from the new side, everything else from the old one.
  by_cases appears : kind = .added
  · subst appears
    rw [ofKind, added_between,
      find?_filterMap (fun name after => record? .added name (get? old name) (some after))
        ascendingNew fun _ _ _ => name_of_record?]
    cases get? new name with
    | none => cases get? old name <;> rfl
    | some after => rfl
  · rw [ofKind_between schema old new appears,
      find?_filterMap (fun name before => record? kind name (some before) (get? new name))
        ascendingOld fun _ _ _ => name_of_record?]
    cases get? old name with
    | none => cases kind <;> first | contradiction | rfl
    | some before => rfl

theorem names_between_ascending (schema : String) (ascendingOld : Ascending old)
    (ascendingNew : Ascending new) (kind : PropertyChangeKind) :
    (((between schema old new).ofKind kind).map (·.name)).Pairwise (· < ·) := by
  by_cases appears : kind = .added
  · subst appears
    rw [ofKind, added_between]
    exact names_filterMap_ascending
      (fun name after => record? .added name (get? old name) (some after))
      ascendingNew fun _ _ _ => name_of_record?
  · rw [ofKind_between schema old new appears]
    exact names_filterMap_ascending
      (fun name before => record? kind name (some before) (get? new name))
      ascendingOld fun _ _ _ => name_of_record?

theorem eq_between_of_mem {schema : String} (ascendingOld : Ascending old)
    (ascendingNew : Ascending new) {kind : PropertyChangeKind} {record : PropertyChange}
    (member : record ∈ (between schema old new).ofKind kind) :
    kind.occurs (get? old record.name) (get? new record.name) = true ∧
      record = .between record.name kind (get? old record.name) (get? new record.name) := by
  have found : record? kind record.name (get? old record.name) (get? new record.name) =
      some record := by
    by_cases appears : kind = .added
    · subst appears
      rw [ofKind, added_between] at member
      obtain ⟨⟨name, after⟩, listed, found⟩ := List.mem_filterMap.mp member
      rw [name_of_record? found, (ascendingNew.get?_eq_some_iff name after).mpr listed]
      exact found
    · rw [ofKind_between schema old new appears] at member
      obtain ⟨⟨name, before⟩, listed, found⟩ := List.mem_filterMap.mp member
      rw [name_of_record? found, (ascendingOld.get?_eq_some_iff name before).mpr listed]
      exact found
  rw [record?, Option.ite_none_right_eq_some, Option.some.injEq] at found
  exact ⟨found.1, found.2.symm⟩

theorem mem_names_iff (schema : String) (ascendingOld : Ascending old)
    (ascendingNew : Ascending new) (kind : PropertyChangeKind) (name : String) :
    name ∈ ((between schema old new).ofKind kind).map (·.name) ↔
      kind.occurs (get? old name) (get? new name) = true := by
  have found := find?_between schema ascendingOld ascendingNew kind name
  have listed : name ∈ ((between schema old new).ofKind kind).map (·.name) ↔
      (((between schema old new).ofKind kind).find? (·.name == name)).isSome := by
    simp
  rw [listed, found, record?]
  split <;> simp [*]

theorem mem_all_names_iff (schema : String) (ascendingOld : Ascending old)
    (ascendingNew : Ascending new) (name : String) :
    name ∈ (between schema old new).all.map (·.name) ↔
      ∃ kind : PropertyChangeKind, kind.occurs (get? old name) (get? new name) = true := by
  have listed := mem_names_iff schema ascendingOld ascendingNew
  constructor
  · intro member
    obtain ⟨record, inside, rfl⟩ := List.mem_map.mp member
    obtain ⟨kind, inside⟩ := (mem_all_iff _ record).mp inside
    exact ⟨kind, (listed kind record.name).mp (List.mem_map_of_mem inside)⟩
  · rintro ⟨kind, occurs⟩
    obtain ⟨record, inside, rfl⟩ := List.mem_map.mp ((listed kind name).mpr occurs)
    exact List.mem_map_of_mem ((mem_all_iff _ record).mpr ⟨kind, inside⟩)

theorem eq_between_of_mem_all {schema : String} (ascendingOld : Ascending old)
    (ascendingNew : Ascending new) {record : PropertyChange}
    (member : record ∈ (between schema old new).all) :
    ∃ kind : PropertyChangeKind, kind.occurs (get? old record.name) (get? new record.name) = true ∧
      record = .between record.name kind (get? old record.name) (get? new record.name) := by
  obtain ⟨kind, inside⟩ := (mem_all_iff _ record).mp member
  exact ⟨kind, eq_between_of_mem ascendingOld ascendingNew inside⟩

theorem get?_apply (schema : String) (ascendingOld : Ascending old) (ascendingNew : Ascending new)
    (name : String) :
    get? ((between schema old new).apply (shapes old)) name =
      [PropertyChangeKind.added, .removed, .typeChanged, .requiredChanged, .nullableChanged].foldl
        (fun shape kind => (record? kind name (get? old name) (get? new name)).elim shape
          fun record => record.edit shape) (get? (shapes old) name) := by
  have distinct := names_between_ascending schema ascendingOld ascendingNew
  -- Within one list a name is edited once; it may be edited again by a later list.
  have step (kind : PropertyChangeKind) (map : List (String × Shape)) :
      get? (PropertyChange.applyAll ((between schema old new).ofKind kind) map) name =
        (record? kind name (get? old name) (get? new name)).elim (get? map name)
          fun record => record.edit (get? map name) := by
    rw [PropertyChange.get?_applyAll (distinct kind),
      find?_between schema ascendingOld ascendingNew]
  rw [apply, all_eq]
  simp only [PropertyChange.applyAll, List.foldl_append] at step ⊢
  simp only [step, List.foldl_cons, List.foldl_nil]

end SchemaChange

theorem get?_shapes (properties : List (String × Property)) (name : String) :
    get? (shapes properties) name = (get? properties name).map Property.shape :=
  SortedMap.get?_map (fun _ => Property.shape) name properties

theorem shapes_ascending {properties : List (String × Property)}
    (ascending : Ascending properties) : Ascending (shapes properties) :=
  ascending.map fun _ => Property.shape

namespace SchemaChange

variable {old new : List (String × Property)}

theorem apply_between (schema : String) (ascendingOld : Ascending old)
    (ascendingNew : Ascending new) : (between schema old new).apply (shapes old) = shapes new := by
  have applied := PropertyChange.applyAll_ascending (between schema old new).all
    (shapes_ascending ascendingOld)
  refine applied.eq_of_get? (shapes_ascending ascendingNew) ?_
  intro name
  refine (get?_apply schema ascendingOld ascendingNew name).trans ?_
  rw [get?_shapes, get?_shapes]
  cases get? old name with
  | none =>
      cases get? new name with
      | none => rfl
      | some after => rfl
  | some before =>
      cases get? new name with
      | none => rfl
      | some after =>
          simp only [List.foldl_cons, List.foldl_nil, record?, PropertyChangeKind.occurs]
          obtain ⟨type, required, nullable, metadata⟩ := before
          obtain ⟨newType, newRequired, newNullable, newMetadata⟩ := after
          by_cases sameType : type = newType <;> by_cases sameRequired : required = newRequired <;>
            by_cases sameNullable : nullable = newNullable <;>
            simp [sameType, sameRequired, sameNullable, PropertyChange.edit, PropertyChange.between,
              Property.shape]

/-- A difference between two versions of the properties of a schema says how they differ, all of
    it and nothing else. -/
structure IsDifference (change : SchemaChange) (old new : List (String × Property)) : Prop where
  apply : change.apply (shapes old) = shapes new
  ascending : ∀ kind, ((change.ofKind kind).map (·.name)).Pairwise (· < ·)
  kind : ∀ kind, ∀ record ∈ change.ofKind kind, record.kind = kind
  listed : ∀ kind name, name ∈ (change.ofKind kind).map (·.name) ↔
    kind.occurs (get? old name) (get? new name) = true
  unlisted : ∀ name, name ∉ change.all.map (·.name) ↔
    get? (shapes old) name = get? (shapes new) name
  oldSide : ∀ record ∈ change.all,
    record.oldType = (get? old record.name).map (·.type) ∧
      record.oldRequired = (get? old record.name).any (·.required) ∧
      record.oldNullable = (get? old record.name).map (·.nullable)
  newSide : ∀ record ∈ change.all,
    record.newType = (get? new record.name).map (·.type) ∧
      record.newRequired = (get? new record.name).any (·.required) ∧
      record.newNullable = (get? new record.name).map (·.nullable)
  metadata : ∀ record ∈ change.all,
    some record.metadata = ((get? new record.name).or (get? old record.name)).map (·.metadata)

theorem exists_occurs_iff (old new : Option Property) :
    (∃ kind : PropertyChangeKind, kind.occurs old new = true) ↔
      old.map Property.shape ≠ new.map Property.shape := by
  constructor
  · rintro ⟨kind, differs⟩ same
    cases kind <;> cases old <;> cases new <;>
      simp_all [PropertyChangeKind.occurs, Property.shape]
  · intro differs
    cases old with
    | none =>
        cases new with
        | none => contradiction
        | some after => exact ⟨.added, rfl⟩
    | some before =>
        cases new with
        | none => exact ⟨.removed, rfl⟩
        | some after =>
            by_cases type : before.type = after.type
            · by_cases required : before.required = after.required
              · refine ⟨.nullableChanged, bne_iff_ne.mpr fun nullable => differs ?_⟩
                simp [Property.shape, type, required, nullable]
              · exact ⟨.requiredChanged, bne_iff_ne.mpr required⟩
            · exact ⟨.typeChanged, bne_iff_ne.mpr type⟩

theorem metadata_between {kind : PropertyChangeKind} {old new : Option Property} (name : String)
    (occurs : kind.occurs old new = true) :
    some (PropertyChange.between name kind old new).metadata = (new.or old).map (·.metadata) := by
  cases old <;> cases new <;> first | rfl | (cases kind <;> contradiction)

theorem between_isDifference (schema : String) (ascendingOld : Ascending old)
    (ascendingNew : Ascending new) : (between schema old new).IsDifference old new := by
  have recorded (record) (member : record ∈ (between schema old new).all) :=
    eq_between_of_mem_all ascendingOld ascendingNew member
  exact {
    apply := apply_between schema ascendingOld ascendingNew
    ascending := names_between_ascending schema ascendingOld ascendingNew
    kind := fun kind record member =>
      congrArg (·.kind) (eq_between_of_mem ascendingOld ascendingNew member).2
    listed := mem_names_iff schema ascendingOld ascendingNew
    unlisted := fun name => by
      rw [mem_all_names_iff schema ascendingOld ascendingNew, exists_occurs_iff, get?_shapes,
        get?_shapes, ne_eq, Classical.not_not]
    oldSide := fun record member => by
      obtain ⟨kind, _, same⟩ := recorded record member
      exact ⟨congrArg (·.oldType) same, congrArg (·.oldRequired) same,
        congrArg (·.oldNullable) same⟩
    newSide := fun record member => by
      obtain ⟨kind, _, same⟩ := recorded record member
      exact ⟨congrArg (·.newType) same, congrArg (·.newRequired) same,
        congrArg (·.newNullable) same⟩
    metadata := fun record member => by
      obtain ⟨kind, occurs, same⟩ := recorded record member
      exact (congrArg (some ·.metadata) same).trans (metadata_between record.name occurs) }

theorem between_isDifference_of_manager :
    let old : List (String × Property) :=
      [("mail", { type := "string" }), ("manager", { type := "object", nullable := true }),
        ("size", { type := "integer", required := true })]
    let new : List (String × Property) :=
      [("manager", { type := "user", required := true }),
        ("size", { type := "integer", required := true }), ("upn", { type := "string" })]
    let change := between "directory" old new
    Ascending old ∧ Ascending new ∧ change.IsDifference old new ∧
      change.all.map (fun record => (record.name, record.kind)) =
        [("upn", .added), ("mail", .removed), ("manager", .typeChanged),
          ("manager", .requiredChanged), ("manager", .nullableChanged)] := by
  intro old new change
  have ascendingOld : Ascending old := by decide +kernel
  have ascendingNew : Ascending new := by decide +kernel
  exact ⟨ascendingOld, ascendingNew,
    between_isDifference "directory" ascendingOld ascendingNew, by decide +kernel⟩

end SchemaChange

end ReleaseDrift
