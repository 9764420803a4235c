import ReleaseDrift.Declaration.Line

/-!
What a line declares is what the first recogniser that fits finds in it. It is found without regard
to the direction and the number of the line, which are only put on the record.
-/

namespace ReleaseDrift

def Change.relabel (direction : Direction) (number : Nat) : Change → Change
  | field change => field { change with direction, line := some number }
  | method change => method { change with direction, line := some number }
  | embedded change => embedded { change with direction, line := some number }

namespace Declaration

def Outcome.relabel (direction : Direction) (number : Nat) : Outcome → Outcome
  | change declared => change (declared.relabel direction number)
  | skipped skip => skipped skip
  | blank => blank

theorem read_eq_relabel (line : List Char) (direction : Direction) (block : Block)
    (number : Nat) :
    read line direction block number = (read line .added block 0).relabel direction number := by
  simp only [read]
  by_cases blank : (line == []) = true
  · simp only [blank, if_true, Outcome.relabel]
  · simp only [blank]
    cases exclusion? line with
    | some skip => rfl
    | none =>
        cases embedded? line with
        | some type => rfl
        | none =>
            cases block with
            | interface =>
                cases method? line with
                | none => rfl
                | some parts => cases exported : isExported parts.name <;> simp [exported] <;> rfl
            | struct =>
                cases field? line with
                | none => rfl
                | some parts => cases exported : isExported parts.name <;> simp [exported] <;> rfl

theorem exclusion?_eq_none_iff {line : List Char} :
    exclusion? line = none ↔
      isComment line = false ∧ isBraceOnly line = false ∧
        (startsWithWord declarationWords line = false ∧ isImport line = false) ∧
        isImplementation line = false := by
  rw [exclusion?]
  cases isComment line <;> cases isBraceOnly line <;> cases startsWithWord declarationWords line <;>
    cases isImport line <;> cases isImplementation line <;> simp

theorem read_eq_skipped {line : List Char} {skip : Skip} (filled : line ≠ [])
    (excluded : exclusion? line = some skip) (direction : Direction) (block : Block)
    (number : Nat) : read line direction block number = .skipped skip := by
  rw [read.eq_def, if_neg (by simpa using filled), excluded]

/-- What the recognisers find in a line, when it is not left out before them. -/
inductive Declares (line : List Char) (direction : Direction) (number : Nat) :
    Block → Change → Prop
  | embedded {block : Block} {type : List Char} (found : embedded? line = some type) :
      Declares line direction number block
        (.embedded ⟨String.ofList type, direction, block, some number⟩)
  | method {parts : MethodParts} (other : embedded? line = none)
      (found : method? line = some parts) (exported : isExported parts.name = true) :
      Declares line direction number .interface
        (.method ⟨String.ofList parts.name, String.ofList parts.parameters,
          String.ofList parts.returns, direction, some number⟩)
  | field {parts : FieldParts} (other : embedded? line = none)
      (found : field? line = some parts) (exported : isExported parts.name = true) :
      Declares line direction number .struct
        (.field ⟨String.ofList parts.name, String.ofList parts.type, direction, some number⟩)

theorem read_eq_change_iff (line : List Char) (direction : Direction) (block : Block)
    (number : Nat) (change : Change) :
    read line direction block number = .change change ↔
      line ≠ [] ∧ exclusion? line = none ∧ Declares line direction number block change := by
  constructor
  · intro recorded
    unfold read at recorded
    split at recorded
    · contradiction
    · rename_i filled
      refine ⟨by simpa using filled, ?_⟩
      split at recorded
      · contradiction
      · rename_i kept
        refine ⟨kept, ?_⟩
        split at recorded
        · rename_i type found
          cases recorded
          exact .embedded found
        · rename_i other
          cases block with
          | interface =>
              dsimp only at recorded
              split at recorded
              · rename_i parts found
                split at recorded
                · rename_i exported
                  cases recorded
                  exact .method other found exported
                · contradiction
              · contradiction
          | struct =>
              dsimp only at recorded
              split at recorded
              · rename_i parts found
                split at recorded
                · rename_i exported
                  cases recorded
                  exact .field other found exported
                · contradiction
              · contradiction
  · rintro ⟨filled, kept, declared⟩
    have shown : (line == []) = false := beq_false_of_ne filled
    cases declared with
    | embedded found => simp [read, shown, kept, found]
    | method other found exported => simp [read, shown, kept, other, found, exported]
    | field other found exported => simp [read, shown, kept, other, found, exported]

end Declaration

end ReleaseDrift
