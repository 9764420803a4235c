import Mathlib.Algebra.GroupWithZero.Nat
import ReleaseDrift.Proofs.Schema.Flatten
import ReleaseDrift.Proofs.Schema.Reconstruction
import ReleaseDrift.Proofs.Text.Affix
import ReleaseDrift.Schema.Comparison

/-!
What a comparison of two documents owes to the schemas that both of them hold: which it compares,
what it records for each, and how its counters add up.
-/

namespace ReleaseDrift

open SortedMap (Ascending common get?)

namespace SchemaChange

theorem ofKind_eq_nil {change : SchemaChange} (unchanged : change.hasChanges = false)
    (kind : PropertyChangeKind) : change.ofKind kind = [] := by
  rw [hasChanges, Bool.not_eq_false', List.isEmpty_iff] at unchanged
  rw [List.eq_nil_iff_forall_not_mem]
  intro record member
  have listed := (mem_all_iff change record).mpr ⟨kind, member⟩
  rw [unchanged] at listed
  exact List.not_mem_nil listed

theorem hasChanges_compare_iff (schema : String) (old new : Json) :
    (compare schema old new).hasChanges = true ↔
      shapes (Property.flatten old) ≠ shapes (Property.flatten new) := by
  have ascendingOld := Property.flatten_ascending old
  have ascendingNew := Property.flatten_ascending new
  have named := mem_all_names_iff schema ascendingOld ascendingNew
  rw [hasChanges, Bool.not_eq_true', List.isEmpty_eq_false_iff]
  constructor
  · intro filled same
    obtain ⟨record, member⟩ := List.exists_mem_of_ne_nil _ filled
    have differs := (exists_occurs_iff _ _).mp
      ((named record.name).mp (List.mem_map_of_mem member))
    rw [← get?_shapes, ← get?_shapes, same] at differs
    exact differs rfl
  · intro differs empty
    apply differs
    refine (shapes_ascending ascendingOld).eq_of_get? (shapes_ascending ascendingNew) ?_
    intro name
    rw [get?_shapes, get?_shapes]
    by_contra apart
    have listed := (named name).mpr ((exists_occurs_iff _ _).mpr apart)
    rw [compare] at empty
    rw [empty] at listed
    exact List.not_mem_nil listed

end SchemaChange

namespace SchemaComparison

abbrev Versions := String × Json × Json

def inScope (scope : String) (versions : Versions) : Bool :=
  Text.startsWith scope.toList versions.1.toList

def isMalformed (versions : Versions) : Bool :=
  versions.2.1.obj?.isNone || versions.2.2.obj?.isNone

def difference (versions : Versions) : SchemaChange :=
  SchemaChange.compare versions.1 versions.2.1 versions.2.2

def differences (scope : String) (shared : List Versions) : List SchemaChange :=
  ((shared.filter (inScope scope)).map difference).filter (·.hasChanges)

/-- A comparison that has gone through some schemas, each with its two versions. -/
def ofShared (start : SchemaComparison) (scope : String) (shared : List Versions) :
    SchemaComparison :=
  let compared := shared.filter (inScope scope)
  let changes := differences scope shared
  { start with
    changes
    stats :=
      { start.stats with
        schemasCompared := compared.length
        schemasSkipped := (shared.filter (!inScope scope ·)).length
        schemasMalformed := compared.countP isMalformed
        schemasWithChanges := changes.length
        propertiesAdded := (changes.map (·.added.length)).sum
        propertiesRemoved := (changes.map (·.removed.length)).sum
        typesChanged := (changes.map (·.typeChanged.length)).sum
        requiredChanged := (changes.map (·.requiredChanged.length)).sum
        nullableChanged := (changes.map (·.nullableChanged.length)).sum } }

def start (old new : SchemaDocument) : SchemaComparison :=
  { addedSchemas := missing new old
    removedSchemas := missing old new
    stats :=
      { schemasOld := old.size
        schemasNew := new.size
        schemasAdded := (missing new old).length
        schemasRemoved := (missing old new).length } }

theorem add_ofShared (begun : SchemaComparison) (scope : String) (shared : List Versions)
    (versions : Versions) :
    (ofShared begun scope shared).add scope versions.1 versions.2.1 versions.2.2 =
      ofShared begun scope (shared ++ [versions]) := by
  rw [add, ← inScope, ← isMalformed, ← difference]
  have counted : (isMalformed versions).toNat = if isMalformed versions then 1 else 0 := by
    cases isMalformed versions <;> rfl
  cases within : inScope scope versions with
  | false =>
      simp [ofShared, differences, SchemaStatistics.skip, within]
  | true =>
      cases changed : (difference versions).hasChanges with
      | true =>
          simp [ofShared, differences, SchemaStatistics.record, within, changed,
            List.countP_singleton, counted]
      | false =>
          -- Without a difference all five lists are empty and add nothing to their counters.
          have empty := SchemaChange.ofKind_eq_nil changed
          have added := empty .added
          have removed := empty .removed
          have type := empty .typeChanged
          have required := empty .requiredChanged
          have nullable := empty .nullableChanged
          simp only [SchemaChange.ofKind] at added removed type required nullable
          simp [ofShared, differences, SchemaStatistics.record, within, changed, added, removed,
            type, required, nullable, List.countP_singleton, counted]

theorem foldl_add_eq_ofShared (old new : SchemaDocument) (scope : String)
    (shared : List Versions) :
    shared.foldl (fun comparison versions =>
        comparison.add scope versions.1 versions.2.1 versions.2.2) (start old new) =
      ofShared (start old new) scope shared := by
  -- From the right, since each schema is added behind those compared before it.
  induction shared using List.reverseRecOn with
  | nil => rfl
  | append_singleton shared versions ih =>
      rw [List.foldl_append, ih, List.foldl_cons, List.foldl_nil, add_ofShared]

theorem compare_eq_ofShared (old new : SchemaDocument) (scope : String) :
    compare old new scope =
      ofShared (start old new) scope (common old.schemas new.schemas) := by
  rw [← foldl_add_eq_ofShared, common, List.foldl_filterMap]
  refine List.foldl_ext _ _ _ fun comparison entry _ => ?_
  obtain ⟨name, schema⟩ := entry
  have found : new.get? name = get? new.schemas name := rfl
  simp only [found]
  cases get? new.schemas name <;> rfl

theorem inScope_iff (scope : String) (versions : Versions) :
    inScope scope versions = true ↔ scope.toList <+: versions.1.toList :=
  Text.startsWith_iff scope.toList versions.1.toList

section Shared

variable {old new : SchemaDocument}

theorem mem_common_iff (ascendingOld : Ascending old.schemas) (name : String)
    (before after : Json) :
    (name, before, after) ∈ common old.schemas new.schemas ↔
      old.get? name = some before ∧ new.get? name = some after := by
  rw [← ascendingOld.common.get?_eq_some_iff, SortedMap.get?_common]
  simp [Option.bind_eq_some_iff, SchemaDocument.get?]

theorem mem_differences_iff (ascendingOld : Ascending old.schemas) (scope : String)
    (change : SchemaChange) :
    change ∈ differences scope (common old.schemas new.schemas) ↔
      ∃ before after, old.get? change.schema = some before ∧
        new.get? change.schema = some after ∧ scope.toList <+: change.schema.toList ∧
        shapes (Property.flatten before) ≠ shapes (Property.flatten after) ∧
        change = SchemaChange.compare change.schema before after := by
  simp only [differences, List.mem_filter, List.mem_map, inScope_iff]
  constructor
  · rintro ⟨⟨⟨name, before, after⟩, ⟨shared, within⟩, rfl⟩, changed⟩
    obtain ⟨inOld, inNew⟩ := (mem_common_iff ascendingOld name before after).mp shared
    exact ⟨before, after, inOld, inNew, within,
      (SchemaChange.hasChanges_compare_iff name before after).mp changed, rfl⟩
  · rintro ⟨before, after, inOld, inNew, within, differs, same⟩
    have shared := (mem_common_iff ascendingOld change.schema before after).mpr ⟨inOld, inNew⟩
    have changed := (SchemaChange.hasChanges_compare_iff change.schema before after).mpr differs
    rw [← same] at changed
    exact ⟨⟨(change.schema, before, after), ⟨shared, within⟩, same.symm⟩, changed⟩

theorem differences_ascending (ascendingOld : Ascending old.schemas) (scope : String) :
    (differences scope (common old.schemas new.schemas)).Pairwise (·.schema < ·.schema) := by
  have shared : Ascending (common old.schemas new.schemas) := ascendingOld.common
  refine List.Pairwise.filter _ (List.pairwise_map.mpr ?_)
  exact shared.sublist List.filter_sublist

theorem eq_of_mem_iff {changes others : List SchemaChange}
    (ascending : changes.Pairwise (·.schema < ·.schema))
    (ascendingOthers : others.Pairwise (·.schema < ·.schema))
    (same : ∀ change, change ∈ changes ↔ change ∈ others) : changes = others := by
  have distinct {list : List SchemaChange} (above : list.Pairwise (·.schema < ·.schema)) :
      list.Nodup := by
    refine List.Pairwise.imp ?_ above
    rintro change _ below rfl
    exact String.lt_irrefl _ below
  have members : changes.Perm others :=
    (List.perm_ext_iff_of_nodup (distinct ascending) (distinct ascendingOthers)).mpr same
  refine members.eq_of_pairwise ?_ ascending ascendingOthers
  intro first second _ _ below above
  exact absurd above (String.lt_asymm below)

theorem differences_eq_filter (scope : String) (shared : List Versions) :
    differences scope shared =
      (differences "" shared).filter fun change => scope.toList <+: change.schema.toList := by
  have all : shared.filter (inScope "") = shared := by
    rw [List.filter_eq_self]
    intro versions _
    exact (inScope_iff "" versions).mpr List.nil_prefix
  have named : inScope scope =
      (fun change => decide (scope.toList <+: change.schema.toList)) ∘ difference := by
    funext versions
    rw [Bool.eq_iff_iff, Function.comp_apply, decide_eq_true_iff, inScope_iff]
    rfl
  rw [differences, differences, all, List.filter_comm, named, List.filter_map (l := shared)]

theorem length_eq_missing_add_shared (old new : SchemaDocument) (scope : String) :
    old.size = (missing old new).length +
      ((common old.schemas new.schemas).filter (inScope scope)).length +
      ((common old.schemas new.schemas).filter (!inScope scope ·)).length := by
  have split := SortedMap.length_filter_not_contains old.schemas new.schemas
  have parts : (common old.schemas new.schemas).length =
      ((common old.schemas new.schemas).filter (inScope scope)).length +
        ((common old.schemas new.schemas).filter (!inScope scope ·)).length :=
    List.length_eq_length_filter_add (inScope scope)
  have missed : (missing old new).length =
      (old.schemas.filter fun entry => !SortedMap.contains new.schemas entry.1).length := by
    rw [missing, SchemaDocument.names, List.filter_map, List.length_map]
    rfl
  rw [SchemaDocument.size]
  omega

theorem length_shared_swap (ascendingOld : Ascending old.schemas)
    (ascendingNew : Ascending new.schemas) (test : String → Bool) :
    ((common new.schemas old.schemas).filter (test ·.1)).length =
      ((common old.schemas new.schemas).filter (test ·.1)).length := by
  rw [ascendingOld.common_swap ascendingNew, List.filter_map, List.length_map]
  rfl

theorem length_shared (scope : String) :
    ((common old.schemas new.schemas).filter (inScope scope)).length =
      old.names.countP fun name => name ∈ new.names ∧ scope.toList <+: name.toList := by
  have keys := SortedMap.keys_common old.schemas new.schemas
  have counted : ((common old.schemas new.schemas).filter (inScope scope)).length =
      ((common old.schemas new.schemas).map (·.1)).countP
        fun name => Text.startsWith scope.toList name.toList := by
    rw [← List.countP_eq_length_filter, List.countP_map]
    rfl
  rw [counted, keys, List.countP_filter]
  apply List.countP_congr
  intro name _
  rw [Bool.and_eq_true, decide_eq_true_iff, SortedMap.contains_iff, Text.startsWith_iff,
    SchemaDocument.names, And.comm]

end Shared

theorem mem_missing_iff (document other : SchemaDocument) (name : String) :
    name ∈ missing document other ↔ name ∈ document.names ∧ name ∉ other.names := by
  rw [missing, List.mem_filter, Bool.not_eq_true', Bool.eq_false_iff, Ne, SortedMap.contains_iff]
  rfl

/-- What a comparison of two documents gives account of: where each schema of either document
    went, what each change stands for, and what its counters count. -/
structure IsAccount (comparison : SchemaComparison) (old new : SchemaDocument) (scope : String) :
    Prop where
  schemasOld : comparison.stats.schemasOld = old.size
  schemasNew : comparison.stats.schemasNew = new.size
  oldParts : comparison.stats.schemasOld = comparison.stats.schemasRemoved +
    comparison.stats.schemasCompared + comparison.stats.schemasSkipped
  newParts : comparison.stats.schemasNew = comparison.stats.schemasAdded +
    comparison.stats.schemasCompared + comparison.stats.schemasSkipped
  added : ∀ name, name ∈ comparison.addedSchemas ↔ name ∈ new.names ∧ name ∉ old.names
  removed : ∀ name, name ∈ comparison.removedSchemas ↔ name ∈ old.names ∧ name ∉ new.names
  schemasAdded : comparison.stats.schemasAdded = comparison.addedSchemas.length
  schemasRemoved : comparison.stats.schemasRemoved = comparison.removedSchemas.length
  schemasCompared : comparison.stats.schemasCompared =
    old.names.countP fun name => name ∈ new.names ∧ scope.toList <+: name.toList
  ascending : comparison.changes.Pairwise (·.schema < ·.schema)
  listed : ∀ change, change ∈ comparison.changes ↔
    ∃ before after, old.get? change.schema = some before ∧ new.get? change.schema = some after ∧
      scope.toList <+: change.schema.toList ∧
      shapes (Property.flatten before) ≠ shapes (Property.flatten after) ∧
      change = SchemaChange.compare change.schema before after
  schemasWithChanges : comparison.stats.schemasWithChanges = comparison.changes.length
  schemasMalformed : comparison.stats.schemasMalformed ≤ comparison.stats.schemasCompared
  propertiesAdded : comparison.stats.propertiesAdded =
    (comparison.changes.map (·.added.length)).sum
  propertiesRemoved : comparison.stats.propertiesRemoved =
    (comparison.changes.map (·.removed.length)).sum
  typesChanged : comparison.stats.typesChanged =
    (comparison.changes.map (·.typeChanged.length)).sum
  requiredChanged : comparison.stats.requiredChanged =
    (comparison.changes.map (·.requiredChanged.length)).sum
  nullableChanged : comparison.stats.nullableChanged =
    (comparison.changes.map (·.nullableChanged.length)).sum

theorem ofShared_isAccount {old new : SchemaDocument} (ascendingOld : Ascending old.schemas)
    (ascendingNew : Ascending new.schemas) (scope : String) :
    (ofShared (start old new) scope (common old.schemas new.schemas)).IsAccount old new scope where
  schemasOld := rfl
  schemasNew := rfl
  oldParts := length_eq_missing_add_shared old new scope
  newParts := by
    have parts := length_eq_missing_add_shared new old scope
    have compared := length_shared_swap ascendingOld ascendingNew
      fun name => Text.startsWith scope.toList name.toList
    have skipped := length_shared_swap ascendingOld ascendingNew
      fun name => !Text.startsWith scope.toList name.toList
    exact parts.trans (congrArg₂ (fun m n => (missing new old).length + m + n) compared skipped)
  added := mem_missing_iff new old
  removed := mem_missing_iff old new
  schemasAdded := rfl
  schemasRemoved := rfl
  schemasCompared := length_shared scope
  ascending := differences_ascending ascendingOld scope
  listed := mem_differences_iff ascendingOld scope
  schemasWithChanges := rfl
  schemasMalformed := List.countP_le_length
  propertiesAdded := rfl
  propertiesRemoved := rfl
  typesChanged := rfl
  requiredChanged := rfl
  nullableChanged := rfl

/-- A comparison accounts for all schemas of both documents, a narrower namespace takes a part of
    the changes, and the record of a schema depends on no other schema. -/
theorem compare_isAccount {old new : SchemaDocument} (ascendingOld : Ascending old.schemas)
    (ascendingNew : Ascending new.schemas) (scope : String) :
    (compare old new scope).IsAccount old new scope ∧
      (compare old new scope).changes =
        (compare old new "").changes.filter
          (fun change => scope.toList <+: change.schema.toList) ∧
      ∀ otherOld otherNew : SchemaDocument, Ascending otherOld.schemas →
        Ascending otherNew.schemas → ∀ name, otherOld.get? name = old.get? name →
        otherNew.get? name = new.get? name →
          (compare otherOld otherNew scope).changes.filter (·.schema = name) =
            (compare old new scope).changes.filter (·.schema = name) := by
  have account (old new : SchemaDocument) (ascendingOld : Ascending old.schemas)
      (ascendingNew : Ascending new.schemas) : (compare old new scope).IsAccount old new scope := by
    rw [compare_eq_ofShared]
    exact ofShared_isAccount ascendingOld ascendingNew scope
  refine ⟨account old new ascendingOld ascendingNew, ?_, ?_⟩
  · rw [compare_eq_ofShared, compare_eq_ofShared]
    exact differences_eq_filter scope (common old.schemas new.schemas)
  · intro otherOld otherNew ascendingOtherOld ascendingOtherNew name sameOld sameNew
    have own := account old new ascendingOld ascendingNew
    have other := account otherOld otherNew ascendingOtherOld ascendingOtherNew
    refine eq_of_mem_iff (other.ascending.filter _) (own.ascending.filter _) ?_
    intro change
    rw [List.mem_filter, List.mem_filter, other.listed, own.listed, decide_eq_true_iff]
    refine and_congr_left fun named => ?_
    rw [named, sameOld, sameNew]

theorem compare_isAccount_of_graph :
    let user (type : String) : Json :=
      .obj [("properties", .obj [("mail", .obj [("type", .str type)])])]
    let old : SchemaDocument :=
      { schemas := [("graph.group", .obj []), ("graph.user", user "string"),
          ("other.user", user "string")] }
    let new : SchemaDocument :=
      { schemas := [("graph.site", .obj []), ("graph.user", user "array"),
          ("other.user", user "array")] }
    let otherNew : SchemaDocument := { schemas := [("graph.user", user "array")] }
    let comparison := compare old new "graph."
    Ascending old.schemas ∧ Ascending new.schemas ∧ Ascending otherNew.schemas ∧
      comparison.IsAccount old new "graph." ∧
      comparison.changes = (compare old new "").changes.filter
        (fun change => "graph.".toList <+: change.schema.toList) ∧
      (compare old otherNew "graph.").changes.filter (·.schema = "graph.user") =
        comparison.changes.filter (·.schema = "graph.user") ∧
      comparison.changes.map (·.schema) = ["graph.user"] ∧
      comparison.stats =
        { schemasOld := 3, schemasNew := 3, schemasAdded := 1, schemasRemoved := 1,
          schemasCompared := 1, schemasSkipped := 1, schemasWithChanges := 1,
          typesChanged := 1 } := by
  intro user old new otherNew comparison
  have ascendingOld : Ascending old.schemas := by decide +kernel
  have ascendingNew : Ascending new.schemas := by decide +kernel
  have ascendingOther : Ascending otherNew.schemas := by decide +kernel
  obtain ⟨account, narrowed, untouched⟩ := compare_isAccount ascendingOld ascendingNew "graph."
  refine ⟨ascendingOld, ascendingNew, ascendingOther, account, narrowed, ?_, by decide +kernel,
    by decide +kernel⟩
  exact untouched old otherNew ascendingOld ascendingOther "graph.user" rfl rfl

end SchemaComparison

end ReleaseDrift
