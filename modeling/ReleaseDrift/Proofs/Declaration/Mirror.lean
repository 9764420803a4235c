import ReleaseDrift.Impact.Item
import ReleaseDrift.Proofs.Declaration.ModelChange
import ReleaseDrift.Proofs.Declaration.Reading

/-!
Declarations with their direction turned round: what appeared has disappeared and the other way
round.
-/

namespace ReleaseDrift

def Direction.opposite : Direction → Direction
  | .added => .removed
  | .removed => .added

def FieldChange.mirror (change : FieldChange) : FieldChange :=
  { change with direction := change.direction.opposite }

def MethodChange.mirror (change : MethodChange) : MethodChange :=
  { change with direction := change.direction.opposite }

def EmbeddedChange.mirror (change : EmbeddedChange) : EmbeddedChange :=
  { change with direction := change.direction.opposite }

namespace Change

def mirror : Change → Change
  | field change => field change.mirror
  | method change => method change.mirror
  | embedded change => embedded change.mirror

theorem field?_mirror (direction : Direction) (change : Change) :
    field? direction change.mirror = (field? direction.opposite change).map (·.mirror) := by
  rcases change with ⟨_, _, turned, _⟩ | _ | _ <;> try rfl
  cases direction <;> cases turned <;> rfl

theorem method?_mirror (direction : Direction) (change : Change) :
    method? direction change.mirror = (method? direction.opposite change).map (·.mirror) := by
  rcases change with _ | ⟨_, _, _, turned, _⟩ | _ <;> try rfl
  cases direction <;> cases turned <;> rfl

theorem embedded?_mirror (direction : Direction) (change : Change) :
    embedded? direction change.mirror = (embedded? direction.opposite change).map (·.mirror) := by
  rcases change with _ | _ | ⟨_, turned, _, _⟩ <;> try rfl
  cases direction <;> cases turned <;> rfl

end Change

namespace ModelChange

def mirror (model : ModelChange) : ModelChange :=
  { model with
    fieldsAdded := model.fieldsRemoved.map (·.mirror)
    fieldsRemoved := model.fieldsAdded.map (·.mirror)
    methodsAdded := model.methodsRemoved.map (·.mirror)
    methodsRemoved := model.methodsAdded.map (·.mirror)
    embeddedAdded := model.embeddedRemoved.map (·.mirror)
    embeddedRemoved := model.embeddedAdded.map (·.mirror) }

theorem ofChanges_mirror (path : String) (changes : List Change) :
    ofChanges path (changes.map (·.mirror)) = (ofChanges path changes).mirror := by
  simp only [ofChanges, mirror, List.filterMap_map, List.map_filterMap, Function.comp_def,
    Change.field?_mirror, Change.method?_mirror, Change.embedded?_mirror, Direction.opposite]

theorem hasChanges_mirror (model : ModelChange) : model.mirror.hasChanges = model.hasChanges := by
  have total : model.mirror.total = model.total := by
    simp only [ModelChange.total, mirror, List.length_map]
    omega
  rw [hasChanges, hasChanges, total]

end ModelChange

namespace Declaration

def Outcome.mirror : Outcome → Outcome
  | change declared => change declared.mirror
  | skipped skip => skipped skip
  | blank => blank

theorem read_opposite (line : List Char) (direction : Direction) (block : Block) (number : Nat) :
    read line direction.opposite block number = (read line direction block number).mirror := by
  rw [read_eq_relabel, read_eq_relabel line direction]
  cases read line .added block 0 with
  | change declared => cases declared <;> rfl
  | skipped skip => rfl
  | blank => rfl

end Declaration

def Level.mirror : Level → Level
  | .opportunity => .critical
  | .critical => .opportunity
  | level => level

def ClassifiedItem.mirror (item : ClassifiedItem) : ClassifiedItem :=
  { item with level := item.level.mirror }

/-- The reason says the direction once more, in words. -/
def ClassifiedItem.withoutReason (item : ClassifiedItem) : ClassifiedItem :=
  { item with reason := "" }

theorem Change.classify_mirror (change : Change) (model : String) :
    (change.mirror.classify model).withoutReason =
      (change.classify model).mirror.withoutReason := by
  obtain ⟨_, _, direction, _⟩ | ⟨_, _, _, direction, _⟩ | ⟨_, direction, _, _⟩ := change <;>
    cases direction <;> rfl

theorem ModelChange.changes_mirror (model : ModelChange) :
    model.mirror.changes.Perm (model.changes.map (·.mirror)) := by
  simp only [changes, mirror, List.map_append, List.map_map]
  exact (List.perm_append_comm.append List.perm_append_comm).append List.perm_append_comm

theorem ModelChange.classify_mirror (model : ModelChange) :
    (model.mirror.classify.map (·.withoutReason)).Perm
      (model.classify.map (·.mirror.withoutReason)) := by
  rw [classify, classify, List.map_map, List.map_map]
  refine (model.changes_mirror.map _).trans ?_
  rw [List.map_map]
  refine List.Perm.of_eq (List.map_congr_left fun change _ => ?_)
  exact change.classify_mirror model.model

end ReleaseDrift
