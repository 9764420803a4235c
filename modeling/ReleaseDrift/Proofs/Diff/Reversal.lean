import Mathlib.Data.List.Perm.Basic
import ReleaseDrift.Proofs.Declaration.Mirror
import ReleaseDrift.Proofs.Diff.History
import ReleaseDrift.Proofs.Diff.SignedLine

/-!
The diff in the other direction. With every sign exchanged a scan finds the same declarations in
the same places, those that appeared having disappeared and the other way round.
-/

namespace ReleaseDrift

open Text

def ScanStatistics.mirror (stats : ScanStatistics) : ScanStatistics :=
  { stats with
    linesAdded := stats.linesRemoved
    linesRemoved := stats.linesAdded
    fieldsAdded := stats.fieldsRemoved
    fieldsRemoved := stats.fieldsAdded
    methodsAdded := stats.methodsRemoved
    methodsRemoved := stats.methodsAdded
    embeddedAdded := stats.embeddedRemoved
    embeddedRemoved := stats.embeddedAdded }

namespace Diff

namespace ChangeLine

def mirror (line : ChangeLine) : ChangeLine :=
  { line with direction := line.direction.opposite }

theorem outcome_mirror (line : ChangeLine) : line.mirror.outcome = line.outcome.mirror :=
  Declaration.read_opposite line.text line.direction line.block line.number

theorem change?_mirror (line : ChangeLine) :
    line.mirror.change? = line.change?.map (·.mirror) := by
  rw [change?, change?, outcome_mirror]
  cases line.outcome <;> rfl

theorem skip?_mirror (line : ChangeLine) : line.mirror.skip? = line.skip? := by
  rw [skip?, skip?, outcome_mirror]
  cases line.outcome <;> rfl

end ChangeLine

def Role.mirror : Role → Role
  | text direction line => text (direction.map (·.opposite)) line
  | role => role

theorem Role.mirror_of_not_changed {role : Role} (unchanged : role.direction? = none) :
    role.mirror = role := by
  match role with
  | .names _ | .header | .text none _ => rfl
  | .text (some direction) _ => contradiction

theorem Place.after_mirror (place : Place) (role : Role) :
    place.after [role.mirror] = place.after [role] := by
  cases role <;> rfl

theorem Place.changeLine?_mirror (place : Place) (role : Role) :
    place.changeLine? role.mirror = (place.changeLine? role).map (·.mirror) := by
  match role with
  | .text (some direction) text =>
      cases found : place.file <;> simp [changeLine?, Role.mirror, found, ChangeLine.mirror]
      rfl
  | .text none text => rfl
  | .names path => rfl
  | .header => rfl

theorem changeLines_mirror (place : Place) (history : List Role) :
    changeLines place (history.map (·.mirror)) =
      (changeLines place history).map (·.mirror) := by
  induction history generalizing place with
  | nil => rfl
  | cons role history ih =>
      rw [List.map_cons, changeLines_cons, changeLines_cons, Place.after_mirror, ih,
        Place.changeLine?_mirror, List.map_append]
      cases place.changeLine? role <;> rfl

theorem namedPaths_mirror (history : List Role) :
    namedPaths (history.map (·.mirror)) = namedPaths history := by
  have path (role : Role) : role.mirror.path? = role.path? := by cases role <;> rfl
  rw [namedPaths, namedPaths, List.filterMap_map]
  congr 2
  funext role
  exact path role

theorem fileReading_mirror (place : Place) (history : List Role) (path : String) :
    fileReading place (history.map (·.mirror)) path = (fileReading place history path).mirror := by
  rw [fileReading, fileReading, ← ModelChange.ofChanges_mirror, changesOf, changesOf,
    changeLines_mirror, List.filter_map, List.filterMap_map, List.map_filterMap]
  congr 1
  refine List.filterMap_congr ?_
  intro line _
  exact line.change?_mirror

end Diff

theorem ScanStatistics.ofLines_mirror (lines : List Diff.ChangeLine) :
    ofLines (lines.map (·.mirror)) = (ofLines lines).mirror := by
  have counted (direction : Direction) :
      (lines.map (·.mirror)).countP (·.direction = direction) =
        lines.countP (·.direction = direction.opposite) := by
    rw [List.countP_map]
    apply List.countP_congr
    intro line _
    cases turned : line.direction <;> cases direction <;>
      simp [Diff.ChangeLine.mirror, Direction.opposite, turned]
  have changes : (lines.map (·.mirror)).filterMap Diff.ChangeLine.change? =
      (lines.filterMap Diff.ChangeLine.change?).map (·.mirror) := by
    rw [List.filterMap_map, List.map_filterMap]
    exact List.filterMap_congr fun line _ => line.change?_mirror
  have skips : (lines.map (·.mirror)).filterMap Diff.ChangeLine.skip? =
      lines.filterMap Diff.ChangeLine.skip? := by
    rw [List.filterMap_map]
    exact List.filterMap_congr fun line _ => line.skip?_mirror
  simp only [ofLines, mirror, counted, changes, skips, List.filterMap_map, Function.comp_def,
    Change.field?_mirror, Change.method?_mirror, Change.embedded?_mirror, Direction.opposite,
    ← List.map_filterMap, List.length_map]
  rfl

namespace Diff

def StructuralDiff.mirror (diff : StructuralDiff) : StructuralDiff :=
  { diff with
    changes := diff.changes.map (·.mirror)
    stats := diff.stats.mirror }

theorem result_ofHistory_mirror (history : List Role) :
    (Scan.ofHistory {} (history.map (·.mirror))).result =
      (Scan.ofHistory {} history).result.mirror := by
  have models : (Scan.ofHistory {} (history.map (·.mirror))).models =
      (Scan.ofHistory {} history).models.map (·.mirror) := by
    simp only [Scan.ofHistory, namedPaths_mirror, List.map_map]
    exact List.map_congr_left fun path _ => fileReading_mirror {} history path
  have stats : (Scan.ofHistory {} (history.map (·.mirror))).stats =
      (Scan.ofHistory {} history).stats.mirror := by
    simp only [Scan.ofHistory, changeLines_mirror, ScanStatistics.ofLines_mirror]
  have changed : ModelChange.hasChanges ∘ ModelChange.mirror = ModelChange.hasChanges := by
    funext model
    exact model.hasChanges_mirror
  have unchanged : (fun model : ModelChange => !model.hasChanges) ∘ ModelChange.mirror =
      fun model => !model.hasChanges := by
    funext model
    rw [Function.comp_apply, model.hasChanges_mirror]
  simp only [Scan.result, StructuralDiff.ofModels, models, stats, List.filter_map, List.map_map,
    changed, unchanged, List.length_map, StructuralDiff.mirror, ScanStatistics.mirror]
  rfl

def mirrorLine (line : List Char) : List Char :=
  if startsWith "+++ ".toList line || startsWith "--- ".toList line then line
  else
    match line with
    | '+' :: rest => '-' :: rest
    | '-' :: rest => '+' :: rest
    | line => line

def mirrorText (diff : List Char) : List Char := mapLines mirrorLine diff

/-- No changed line becomes a header when its sign is exchanged. -/
def HidesNoHeader (diff : List Char) : Prop :=
  ∀ line ∈ lines diff, ¬ "+-- ".toList <+: line ∧ ¬ "-++ ".toList <+: line

instance (diff : List Char) : Decidable (HidesNoHeader diff) :=
  inferInstanceAs (Decidable (∀ line ∈ lines diff,
    ¬ "+-- ".toList <+: line ∧ ¬ "-++ ".toList <+: line))

theorem direction?_ofLine_congr (line : List Char) (next other : Option (List Char)) :
    (Role.ofLine line next).direction? = (Role.ofLine line other).direction? := by
  have same (direction : Direction) : (Role.ofLine line next).direction? = some direction ↔
      (Role.ofLine line other).direction? = some direction := by
    rw [direction?_ofLine_iff, direction?_ofLine_iff]
  exact Option.ext same

theorem mirrorLine_signed {direction : Direction} {rest : List Char}
    (noSide : ¬ sideMark direction <+: sign direction ++ rest) :
    mirrorLine (sign direction ++ rest) = sign direction.opposite ++ rest := by
  rw [← startsWith_iff, Bool.not_eq_true] at noSide
  cases direction with
  | added =>
      have old : startsWith "--- ".toList (sign .added ++ rest) = false := rfl
      rw [sideMark] at noSide
      unfold mirrorLine
      rw [noSide, old]
      rfl
  | removed =>
      have new : startsWith "+++ ".toList (sign .removed ++ rest) = false := rfl
      rw [sideMark] at noSide
      unfold mirrorLine
      rw [noSide, new]
      rfl

theorem mirrorLine_of_not_changed {line : List Char}
    (unchanged : (Role.ofLine line none).direction? = none) : mirrorLine line = line := by
  have signless (direction : Direction) (marked : sign direction <+: line) :
      startsWith (sideMark direction) line = true := by
    rw [startsWith_iff]
    by_contra noSide
    rw [(direction?_ofLine_iff line none direction).mpr ⟨marked, noSide⟩] at unchanged
    contradiction
  unfold mirrorLine
  split
  · rfl
  · rename_i headless
    rw [Bool.or_eq_true, not_or] at headless
    split
    · exact absurd (signless .added (List.prefix_append _ _)) headless.1
    · exact absurd (signless .removed (List.prefix_append _ _)) headless.2
    · rfl

theorem exists_signed {line : List Char} {direction : Direction}
    (changed : (Role.ofLine line none).direction? = some direction) :
    ∃ rest, line = sign direction ++ rest ∧ ¬ sideMark direction <+: sign direction ++ rest := by
  obtain ⟨⟨rest, rfl⟩, noSide⟩ := (direction?_ofLine_iff line none direction).mp changed
  exact ⟨rest, rfl, noSide⟩

/-- The signed line that would become a header is one of the two that are excluded. -/
theorem not_sideMark_opposite {direction : Direction} {rest : List Char}
    (safe : ¬ "+-- ".toList <+: sign direction ++ rest ∧ ¬ "-++ ".toList <+: sign direction ++ rest) :
    ¬ sideMark direction.opposite <+: sign direction.opposite ++ rest := by
  rw [sideMark_eq, List.prefix_append_right_inj]
  cases direction with
  | added => exact fun start => safe.1 ((List.prefix_append_right_inj (sign .added)).mpr start)
  | removed => exact fun start => safe.2 ((List.prefix_append_right_inj (sign .removed)).mpr start)

theorem startsWith_mirrorLine {line : List Char}
    (safe : ¬ "+-- ".toList <+: line ∧ ¬ "-++ ".toList <+: line) :
    startsWith "+++ /dev/null".toList (mirrorLine line) =
      startsWith "+++ /dev/null".toList line := by
  cases changed : (Role.ofLine line none).direction? with
  | none => rw [mirrorLine_of_not_changed changed]
  | some direction =>
      obtain ⟨rest, rfl, noSide⟩ := exists_signed changed
      have turned := not_sideMark_opposite safe
      have start : "+++ ".toList <+: "+++ /dev/null".toList := by decide
      have never (direction : Direction)
          (noSide : ¬ sideMark direction <+: sign direction ++ rest) :
          startsWith "+++ /dev/null".toList (sign direction ++ rest) = false := by
        rw [Bool.eq_false_iff, Ne, startsWith_iff]
        cases direction with
        | added => exact fun found => noSide (start.trans found)
        | removed => simp [sign]
      rw [mirrorLine_signed noSide, never _ turned, never _ noSide]

theorem ofLine_mirrorLine {line : List Char} {next : Option (List Char)}
    (safe : ¬ "+-- ".toList <+: line ∧ ¬ "-++ ".toList <+: line)
    (safeNext : ∀ other ∈ next, ¬ "+-- ".toList <+: other ∧ ¬ "-++ ".toList <+: other) :
    Role.ofLine (mirrorLine line) (next.map mirrorLine) = (Role.ofLine line next).mirror := by
  have lookahead : (next.map mirrorLine).any (startsWith "+++ /dev/null".toList) =
      next.any (startsWith "+++ /dev/null".toList) := by
    cases next with
    | none => rfl
    | some other => exact startsWith_mirrorLine (safeNext other rfl)
  rw [ofLine_congr _ lookahead]
  cases changed : (Role.ofLine line none).direction? with
  | none =>
      rw [mirrorLine_of_not_changed changed]
      rw [direction?_ofLine_congr line none next] at changed
      exact (Role.mirror_of_not_changed changed).symm
  | some direction =>
      obtain ⟨rest, rfl, noSide⟩ := exists_signed changed
      rw [mirrorLine_signed noSide, ofLine_signed noSide,
        ofLine_signed (not_sideMark_opposite safe)]
      rfl

theorem ofLines_mirrorLine {lines : List (List Char)}
    (safe : ∀ line ∈ lines, ¬ "+-- ".toList <+: line ∧ ¬ "-++ ".toList <+: line) :
    Role.ofLines (lines.map mirrorLine) = (Role.ofLines lines).map (·.mirror) := by
  induction lines with
  | nil => rfl
  | cons line lines ih =>
      rw [List.forall_mem_cons] at safe
      have safeNext : ∀ other ∈ lines.head?,
          ¬ "+-- ".toList <+: other ∧ ¬ "-++ ".toList <+: other :=
        fun other first => safe.2 other (List.mem_of_mem_head? first)
      rw [List.map_cons, Role.ofLines, Role.ofLines, List.map_cons, List.head?_map,
        ofLine_mirrorLine safe.1 safeNext, ih safe.2]

theorem direction?_dropReturn (line : List Char) :
    (Role.ofLine (dropReturn line) none).direction? = (Role.ofLine line none).direction? := by
  have same (direction : Direction) :
      (Role.ofLine (dropReturn line) none).direction? = some direction ↔
        (Role.ofLine line none).direction? = some direction := by
    have signReturn : (sign direction).getLast? ≠ some '\r' := by cases direction <;> decide
    have sideReturn : (sideMark direction).getLast? ≠ some '\r' := by cases direction <;> decide
    rw [direction?_ofLine_iff, direction?_ofLine_iff, prefix_dropReturn_iff signReturn,
      prefix_dropReturn_iff sideReturn]
  exact Option.ext same

theorem mirrorLine_isLineEdit : IsLineEdit mirrorLine where
  noFeed line noFeed := by
    cases changed : (Role.ofLine line none).direction? with
    | none => rwa [mirrorLine_of_not_changed changed]
    | some direction =>
        obtain ⟨rest, rfl, noSide⟩ := exists_signed changed
        rw [mirrorLine_signed noSide]
        cases direction <;> simp_all [sign, Direction.opposite]
  empty line := by
    cases changed : (Role.ofLine line none).direction? with
    | none => rw [mirrorLine_of_not_changed changed]
    | some direction =>
        obtain ⟨rest, rfl, noSide⟩ := exists_signed changed
        rw [mirrorLine_signed noSide]
        cases direction <;> simp [sign, Direction.opposite]
  ending line := by
    cases changed : (Role.ofLine line none).direction? with
    | none =>
        rw [mirrorLine_of_not_changed changed, mirrorLine_of_not_changed]
        rw [direction?_dropReturn, changed]
    | some direction =>
        obtain ⟨rest, rfl, noSide⟩ := exists_signed changed
        have sideReturn : (sideMark direction).getLast? ≠ some '\r' := by
          cases direction <;> decide
        have noSideLeft : ¬ sideMark direction <+: sign direction ++ dropReturn rest := by
          rwa [← dropReturn_signed, prefix_dropReturn_iff sideReturn]
        rw [mirrorLine_signed noSide, dropReturn_signed, dropReturn_signed,
          mirrorLine_signed noSideLeft]

theorem rolesOf_mirrorText {diff : List Char} (hidesNone : HidesNoHeader diff) :
    rolesOf (mirrorText diff) = (rolesOf diff).map (·.mirror) := by
  rw [rolesOf, mirrorText, lines_mapLines mirrorLine_isLineEdit, ofLines_mirrorLine hidesNone,
    rolesOf]

def StructuralDiff.items (diff : StructuralDiff) : List ClassifiedItem :=
  diff.changes.flatMap (·.classify)

theorem StructuralDiff.items_mirror (diff : StructuralDiff) :
    (diff.mirror.items.map (·.withoutReason)).Perm
      (diff.items.map (·.mirror.withoutReason)) := by
  rw [items, items, mirror, List.flatMap_map, List.map_flatMap, List.map_flatMap]
  exact List.Perm.flatMap_left _ fun model _ => model.classify_mirror

theorem scanText_mirrorText {diff : List Char} (hidesNone : HidesNoHeader diff) :
    scanText (mirrorText diff) = (scanText diff).mirror ∧
      ((scanText (mirrorText diff)).items.map (·.withoutReason)).Perm
        ((scanText diff).items.map (·.mirror.withoutReason)) := by
  have mirrored : scanText (mirrorText diff) = (scanText diff).mirror := by
    rw [scanText_eq_result, scanText_eq_result, rolesOf_mirrorText hidesNone,
      result_ofHistory_mirror]
  refine ⟨mirrored, ?_⟩
  rw [mirrored]
  exact (scanText diff).items_mirror

def ownerDiff : List Char :=
  ("--- a/user.go\n+++ b/user.go\n type User interface \x7b\n" ++
    "-\tOwner() int\r\n+\tOwner() (int, error)\n+// base\n+Base").toList

theorem scanText_mirrorText_of_owner :
    HidesNoHeader ownerDiff ∧
      (scanText (mirrorText ownerDiff) = (scanText ownerDiff).mirror ∧
        ((scanText (mirrorText ownerDiff)).items.map (·.withoutReason)).Perm
          ((scanText ownerDiff).items.map (·.mirror.withoutReason))) ∧
      (scanText ownerDiff).items.map (·.level) = [.opportunity, .critical, .opportunity] ∧
      (scanText (mirrorText ownerDiff)).items.map (·.level) =
        [.opportunity, .critical, .critical] := by
  have hidesNone : HidesNoHeader ownerDiff := by decide +kernel
  exact ⟨hidesNone, scanText_mirrorText hidesNone, by decide +kernel, by decide +kernel⟩

end Diff

end ReleaseDrift
