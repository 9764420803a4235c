import Mathlib.Data.List.Induction
import ReleaseDrift.Declaration.Line

/-!
The six lists of a file as selections from one list of changes, and changes without the number
of their line.
-/

namespace ReleaseDrift

namespace Change

def field? (direction : Direction) : Change → Option FieldChange
  | field change => if change.direction = direction then some change else none
  | _ => none

def method? (direction : Direction) : Change → Option MethodChange
  | method change => if change.direction = direction then some change else none
  | _ => none

def embedded? (direction : Direction) : Change → Option EmbeddedChange
  | embedded change => if change.direction = direction then some change else none
  | _ => none

def withoutLine : Change → Change
  | field change => field { change with line := none }
  | method change => method { change with line := none }
  | embedded change => embedded { change with line := none }

end Change

namespace ModelChange

def ofChanges (path : String) (changes : List Change) : ModelChange :=
  { path
    model := ModelName.ofPath path
    fieldsAdded := changes.filterMap (Change.field? .added)
    fieldsRemoved := changes.filterMap (Change.field? .removed)
    methodsAdded := changes.filterMap (Change.method? .added)
    methodsRemoved := changes.filterMap (Change.method? .removed)
    embeddedAdded := changes.filterMap (Change.embedded? .added)
    embeddedRemoved := changes.filterMap (Change.embedded? .removed) }

theorem push_ofChanges (path : String) (changes : List Change) (change : Change) :
    (ofChanges path changes).push change = ofChanges path (changes ++ [change]) := by
  obtain ⟨name, type, direction, line⟩ | ⟨name, parameters, returns, direction, line⟩ |
    ⟨type, direction, block, line⟩ := change <;> cases direction <;>
    simp [push, ofChanges, Change.field?, Change.method?, Change.embedded?]

def withoutLines (model : ModelChange) : ModelChange :=
  { model with
    fieldsAdded := model.fieldsAdded.map ({ · with line := none })
    fieldsRemoved := model.fieldsRemoved.map ({ · with line := none })
    methodsAdded := model.methodsAdded.map ({ · with line := none })
    methodsRemoved := model.methodsRemoved.map ({ · with line := none })
    embeddedAdded := model.embeddedAdded.map ({ · with line := none })
    embeddedRemoved := model.embeddedRemoved.map ({ · with line := none }) }

theorem withoutLines_push (model : ModelChange) (change : Change) :
    (model.push change).withoutLines = model.withoutLines.push change.withoutLine := by
  obtain ⟨name, type, direction, line⟩ | ⟨name, parameters, returns, direction, line⟩ |
    ⟨type, direction, block, line⟩ := change <;> cases direction <;>
    simp [push, withoutLines, Change.withoutLine]

theorem withoutLines_ofChanges (path : String) (changes : List Change) :
    (ofChanges path changes).withoutLines = ofChanges path (changes.map Change.withoutLine) := by
  induction changes using List.reverseRecOn with
  | nil => rfl
  | append_singleton changes change ih =>
      rw [← push_ofChanges, withoutLines_push, ih, push_ofChanges, List.map_append,
        List.map_singleton]

theorem hasChanges_withoutLines (model : ModelChange) :
    model.withoutLines.hasChanges = model.hasChanges := by
  simp [hasChanges, total, withoutLines]

structure Directed (model : ModelChange) : Prop where
  fieldsAdded : ∀ change ∈ model.fieldsAdded, change.direction = .added
  fieldsRemoved : ∀ change ∈ model.fieldsRemoved, change.direction = .removed
  methodsAdded : ∀ change ∈ model.methodsAdded, change.direction = .added
  methodsRemoved : ∀ change ∈ model.methodsRemoved, change.direction = .removed
  embeddedAdded : ∀ change ∈ model.embeddedAdded, change.direction = .added
  embeddedRemoved : ∀ change ∈ model.embeddedRemoved, change.direction = .removed

theorem directed_of_mem_field? {changes : List Change} {direction : Direction}
    {field : FieldChange} (member : field ∈ changes.filterMap (Change.field? direction)) :
    field.direction = direction := by
  obtain ⟨change, _, found⟩ := List.mem_filterMap.mp member
  cases change <;> grind [Change.field?]

theorem directed_of_mem_method? {changes : List Change} {direction : Direction}
    {method : MethodChange} (member : method ∈ changes.filterMap (Change.method? direction)) :
    method.direction = direction := by
  obtain ⟨change, _, found⟩ := List.mem_filterMap.mp member
  cases change <;> grind [Change.method?]

theorem directed_of_mem_embedded? {changes : List Change} {direction : Direction}
    {embedded : EmbeddedChange}
    (member : embedded ∈ changes.filterMap (Change.embedded? direction)) :
    embedded.direction = direction := by
  obtain ⟨change, _, found⟩ := List.mem_filterMap.mp member
  cases change <;> grind [Change.embedded?]

theorem ofChanges_directed (path : String) (changes : List Change) :
    (ofChanges path changes).Directed where
  fieldsAdded _ member := directed_of_mem_field? member
  fieldsRemoved _ member := directed_of_mem_field? member
  methodsAdded _ member := directed_of_mem_method? member
  methodsRemoved _ member := directed_of_mem_method? member
  embeddedAdded _ member := directed_of_mem_embedded? member
  embeddedRemoved _ member := directed_of_mem_embedded? member

theorem exists_removed_iff {model : ModelChange} (directed : model.Directed) :
    (∃ change ∈ model.changes, change.direction = .removed) ↔
      model.fieldsRemoved ≠ [] ∨ model.methodsRemoved ≠ [] ∨ model.embeddedRemoved ≠ [] := by
  simp only [changes, List.mem_append, List.mem_map]
  constructor
  · rintro ⟨_, ((⟨field, listed, rfl⟩ | ⟨method, listed, rfl⟩) | ⟨embedded, listed, rfl⟩), removed⟩
    · have listed := listed.resolve_left fun added => by
        simp [Change.direction, directed.fieldsAdded field added] at removed
      exact Or.inl (List.ne_nil_of_mem listed)
    · have listed := listed.resolve_left fun added => by
        simp [Change.direction, directed.methodsAdded method added] at removed
      exact Or.inr (Or.inl (List.ne_nil_of_mem listed))
    · have listed := listed.resolve_left fun added => by
        simp [Change.direction, directed.embeddedAdded embedded added] at removed
      exact Or.inr (Or.inr (List.ne_nil_of_mem listed))
  · rintro (filled | filled | filled)
    · obtain ⟨field, listed⟩ := List.exists_mem_of_ne_nil _ filled
      exact ⟨.field field, Or.inl (Or.inl ⟨field, Or.inr listed, rfl⟩),
        directed.fieldsRemoved field listed⟩
    · obtain ⟨method, listed⟩ := List.exists_mem_of_ne_nil _ filled
      exact ⟨.method method, Or.inl (Or.inr ⟨method, Or.inr listed, rfl⟩),
        directed.methodsRemoved method listed⟩
    · obtain ⟨embedded, listed⟩ := List.exists_mem_of_ne_nil _ filled
      exact ⟨.embedded embedded, Or.inr ⟨embedded, Or.inr listed, rfl⟩,
        directed.embeddedRemoved embedded listed⟩

end ModelChange

end ReleaseDrift
