import ReleaseDrift.Proofs.Diff.Assembly

/-!
The changed lines of a patch: those with a sign that does not start a header.
-/

namespace ReleaseDrift

open Text
open Diff (Place Role ChangeLine changeLines pathMarks metadataMarks)

namespace Diff

def sign : Direction → List Char
  | .added => "+".toList
  | .removed => "-".toList

def sideMark : Direction → List Char
  | .added => "+++ ".toList
  | .removed => "--- ".toList

theorem sideMark_eq (direction : Direction) :
    sideMark direction = sign direction ++ (sideMark direction).tail := by
  cases direction <;> rfl

theorem dropReturn_signed (direction : Direction) (rest : List Char) :
    dropReturn (sign direction ++ rest) = sign direction ++ dropReturn rest := by
  by_cases filled : rest = []
  · rw [filled]
    cases direction <;> rfl
  · cases direction <;> exact dropReturn_cons _ filled

theorem sideMark_mem (direction : Direction) : sideMark direction ∈ pathMarks := by
  cases direction <;> decide

theorem eq_sideMark {mark : List Char} (known : mark ∈ pathMarks ++ metadataMarks)
    {direction : Direction} (signed : sign direction <+: mark) : mark = sideMark direction := by
  revert mark
  cases direction <;> decide

theorem sign_length_le {mark : List Char} (known : mark ∈ pathMarks ++ metadataMarks)
    (direction : Direction) : (sign direction).length ≤ mark.length := by
  revert mark
  cases direction <;> decide

theorem splitMarker_direction_iff (line : List Char) (direction : Direction) :
    (splitMarker line).1 = some direction ↔ sign direction <+: line := by
  fun_cases splitMarker line <;> cases direction <;>
    simp_all [sign, List.cons_prefix_iff]

theorem ofLine?_eq_none_of_sign {line : List Char} {direction : Direction}
    (marked : sign direction <+: line) (noSide : ¬ sideMark direction <+: line)
    (next : Option (List Char)) : Header.ofLine? line next = none := by
  rw [ofLine?_eq_none_iff]
  intro mark known start
  -- The sign is not longer than the mark of any header, so it starts the mark as well.
  have inside : sign direction <+: mark :=
    List.prefix_of_prefix_length_le marked start (sign_length_le known direction)
  exact noSide (eq_sideMark known inside ▸ start)

theorem ofLine_signed {direction : Direction} {rest : List Char}
    (noSide : ¬ sideMark direction <+: sign direction ++ rest) (next : Option (List Char)) :
    Role.ofLine (sign direction ++ rest) next = .text (some direction) (trim rest) := by
  rw [Role.ofLine, ofLine?_eq_none_of_sign (List.prefix_append _ _) noSide]
  cases direction <;> rfl

/-- A line is a changed one by its sign, unless the sign is the start of a header. -/
theorem direction?_ofLine_iff (line : List Char) (next : Option (List Char))
    (direction : Direction) :
    (Role.ofLine line next).direction? = some direction ↔
      sign direction <+: line ∧ ¬ sideMark direction <+: line := by
  rw [← splitMarker_direction_iff]
  constructor
  · intro changed
    have noHeader : Header.ofLine? line next = none := by
      rw [Role.ofLine] at changed
      split at changed <;> simp_all [Role.direction?]
    rw [Role.ofLine, noHeader] at changed
    exact ⟨changed, (ofLine?_eq_none_iff line next).mp noHeader _
      (List.mem_append_left _ (sideMark_mem direction))⟩
  · rintro ⟨marked, noSide⟩
    have signed := (splitMarker_direction_iff line direction).mp marked
    rw [Role.ofLine, ofLine?_eq_none_of_sign signed noSide]
    exact marked

theorem countP_changeLines {place : Place} (known : place.file.isSome) (history : List Role)
    (direction : Direction) :
    (changeLines place history).countP (·.direction = direction) =
      history.countP (·.direction? = some direction) := by
  induction history generalizing place with
  | nil => rfl
  | cons role history ih =>
      have knownAfter : (place.after [role]).file.isSome := by
        rw [Place.after_singleton_file]
        cases role.path? <;> simp [known]
      rw [changeLines_cons, List.countP_append, ih knownAfter, List.countP_cons, Nat.add_comm]
      congr 1
      obtain ⟨path, file⟩ := Option.isSome_iff_exists.mp known
      rcases role with path | _ | ⟨_ | direction, text⟩ <;>
        simp [Place.changeLine?, Role.direction?, file, List.countP_singleton]

def signedLine? (line : List Char) : Option (Direction × List Char) :=
  (splitMarker line).1.map fun direction => (direction, trim (splitMarker line).2)

def Role.signed? : Role → Option (Direction × List Char)
  | text (some direction) line => some (direction, line)
  | _ => none

def ChangeLine.source (line : ChangeLine) : String × Direction × List Char :=
  (line.path, line.direction, line.text)

theorem map_source_changeLines {place : Place} {path : String} (file : place.file = some path)
    {history : List Role} (silent : history.filterMap Role.path? = []) :
    (changeLines place history).map ChangeLine.source =
      (history.filterMap Role.signed?).map (Prod.mk path) := by
  induction history generalizing place with
  | nil => rfl
  | cons role history ih =>
      rw [List.filterMap_eq_nil_iff, List.forall_mem_cons] at silent
      obtain ⟨unnamed, silent⟩ := silent
      have fileAfter : (place.after [role]).file = some path := by
        rw [Place.after_singleton_file, unnamed, Option.none_or, file]
      rw [changeLines_cons, List.map_append, ih fileAfter (List.filterMap_eq_nil_iff.mpr silent),
        List.filterMap_cons]
      rcases role with path | _ | ⟨_ | direction, text⟩ <;>
        simp [Place.changeLine?, Role.signed?, file, ChangeLine.source]

theorem signed?_ofLine {line : List Char} (unmarked : ∀ mark ∈ pathMarks, ¬ mark <+: line)
    (next : Option (List Char)) : (Role.ofLine line next).signed? = signedLine? line := by
  cases marked : (splitMarker line).1 with
  | some direction =>
      have changed := (direction?_ofLine_iff line next direction).mpr
        ⟨(splitMarker_direction_iff line direction).mp marked,
          unmarked _ (sideMark_mem direction)⟩
      unfold Role.ofLine at changed ⊢
      split at changed <;> simp_all [Role.direction?, Role.signed?, signedLine?]
  | none =>
      unfold Role.ofLine
      split <;> simp_all [Role.signed?, signedLine?]

theorem filterMap_signed?_ofLines {lines : List (List Char)}
    (unmarked : ∀ line ∈ lines, ∀ mark ∈ pathMarks, ¬ mark <+: line) :
    (Role.ofLines lines).filterMap Role.signed? = lines.filterMap signedLine? := by
  induction lines with
  | nil => rfl
  | cons line lines ih =>
      rw [List.forall_mem_cons] at unmarked
      rw [Role.ofLines, List.filterMap_cons, List.filterMap_cons, signed?_ofLine unmarked.1,
        ih unmarked.2]

theorem signedLine?_cons (c : Char) (rest : List Char) :
    signedLine? (c :: rest) =
      (if c = '+' then some Direction.added
        else if c = '-' then some Direction.removed
        else none).map fun direction => (direction, trim rest) := by
  unfold signedLine? splitMarker
  split <;> simp_all

theorem signedLine?_dropReturn (line : List Char) :
    signedLine? (dropReturn line) = signedLine? line := by
  cases line with
  | nil => rfl
  | cons c rest =>
      by_cases filled : rest = []
      · by_cases ending : c = '\r'
        · rw [filled, ending]
          rfl
        · simp [filled, dropReturn, ending]
      · rw [dropReturn_cons c filled, signedLine?_cons, signedLine?_cons, trim_dropReturn]

theorem countP_ofLines (lines : List (List Char)) (direction : Direction) :
    (Role.ofLines lines).countP (·.direction? = some direction) =
      lines.countP fun line =>
        startsWith (sign direction) line && !startsWith (sideMark direction) line := by
  induction lines with
  | nil => rfl
  | cons line lines ih =>
      rw [Role.ofLines, List.countP_cons, List.countP_cons, ih]
      congr 2
      rw [decide_eq_true_eq, direction?_ofLine_iff, Bool.and_eq_true, Bool.not_eq_true',
        ← Bool.not_eq_true, startsWith_iff, startsWith_iff]

theorem sign_prefix_sideMark (direction : Direction) : sign direction <+: sideMark direction := by
  cases direction <;> decide

theorem countP_and_not_add {p q : List Char → Bool}
    (inside : ∀ line, q line = true → p line = true) (lines : List (List Char)) :
    lines.countP (fun line => p line && !q line) + lines.countP q = lines.countP p := by
  rw [List.countP_eq_countP_filter_add lines p q, List.countP_filter, List.countP_filter,
    Nat.add_comm]
  congr 1
  apply List.countP_congr
  intro line _
  simpa using inside line

end Diff

namespace ChangedFile

open Diff (sign sideMark signedLine?)

def changedLines (file : ChangedFile) : List (Direction × List Char) :=
  file.hunkLines.filterMap signedLine?

theorem HasNoHeader.signed {file : ChangedFile} (noHeader : file.HasNoHeader) :
    file.patchRoles.filterMap Role.signed? = file.changedLines := by
  rw [patchRoles, Diff.rolesOf, Diff.filterMap_signed?_ofLines noHeader.patchLines]
  exact file.filterMap_patchLines rfl Diff.signedLine?_dropReturn

theorem countP_roles (file : ChangedFile) (direction : Direction) :
    file.roles.countP (·.direction? = some direction) =
      file.patchRoles.countP (·.direction? = some direction) := by
  rw [roles, List.countP_cons_of_neg (by simp [Role.direction?]),
    List.countP_cons_of_neg (by simp [Role.direction?]),
    List.countP_cons_of_neg (by simp [Role.direction?])]

/-- Of the lines with a sign, those that start a header are not counted and all others are. -/
theorem countP_patchRoles (file : ChangedFile) (direction : Direction) :
    file.patchRoles.countP (·.direction? = some direction) +
        file.hunkLines.countP (startsWith (sideMark direction)) =
      file.hunkLines.countP (startsWith (sign direction)) := by
  have signReturn : (sign direction).getLast? ≠ some '\r' := by cases direction <;> decide
  have sideReturn : (sideMark direction).getLast? ≠ some '\r' := by cases direction <;> decide
  have empty : startsWith (sign direction) [] = false := by cases direction <;> rfl
  have signed (line : List Char) : startsWith (sideMark direction) line = true →
      startsWith (sign direction) line = true := by
    rw [startsWith_iff, startsWith_iff]
    exact (Diff.sign_prefix_sideMark direction).trans
  rw [patchRoles, Diff.rolesOf, Diff.countP_ofLines, countP_patchLines file (by rw [empty]; rfl)
    (fun line => by rw [startsWith_dropReturn signReturn, startsWith_dropReturn sideReturn])]
  exact Diff.countP_and_not_add signed _

end ChangedFile

namespace Diff

/-- The changed lines of a diff are those of its files, each under the path of its own file. -/
theorem map_source_roles {files : List ChangedFile}
    (noHeader : ∀ file ∈ files, file.HasNoHeader) (place : Place) :
    (changeLines place (files.flatMap ChangedFile.roles)).map ChangeLine.source =
      files.flatMap fun file => file.changedLines.map (Prod.mk file.path) := by
  induction files generalizing place with
  | nil => rfl
  | cons file files ih =>
      rw [List.forall_mem_cons] at noHeader
      rw [List.flatMap_cons, changeLines_append, List.map_append, ih noHeader.2,
        List.flatMap_cons, ChangedFile.roles, changeLines_cons, changeLines_cons,
        changeLines_cons, ← noHeader.1.signed]
      congr 1
      exact map_source_changeLines rfl noHeader.1.phantoms

end Diff

end ReleaseDrift
