import ReleaseDrift.Proofs.EnumValues.Reading

/-!
What the reading of a patch does not depend on: the two directions are read alike, and between two
lines that introduce a function neither the order nor the number of the arms matters.
-/

namespace ReleaseDrift.EnumValues

open Text
open Diff (sign)

def turnLine : List Char → List Char
  | '+' :: rest => '-' :: rest
  | '-' :: rest => '+' :: rest
  | line => line

def turned (patch : List Char) : List Char := mapLines turnLine patch

structure Laws (patch : List Char) : Prop where
  disjoint : List.Disjoint (ofPatch patch).1 (ofPatch patch).2
  turned : ofPatch (turned patch) = (ofPatch patch).swap
  rearranged : ∀ (other : List Char) (before stretch again after : List (List Char)),
    lines patch = before ++ stretch ++ after → lines other = before ++ again ++ after →
      (∀ line ∈ stretch, IntroducesNone line) → (∀ line, line ∈ again ↔ line ∈ stretch) →
        ofPatch other = ofPatch patch
  counted : ∀ direction value, value ∈ side (ofPatch patch) direction ↔
    Names (lines patch) direction value ∧ ¬ Names (lines patch) direction.opposite value

theorem turnLine_signed (direction : Direction) (rest : List Char) :
    turnLine (sign direction ++ rest) = sign direction.opposite ++ rest := by
  cases direction <;> rfl

theorem turnLine_unsigned {line : List Char} (unsigned : ∀ direction, ¬ sign direction <+: line) :
    turnLine line = line := by
  fun_cases turnLine line
  · exact absurd (List.prefix_append _ _) (unsigned .added)
  · exact absurd (List.prefix_append _ _) (unsigned .removed)
  · rfl

theorem turnLine_isLineEdit : IsLineEdit turnLine where
  noFeed line noFeed := by
    rcases signed_or_unsigned line with ⟨direction, rest, rfl⟩ | unsigned
    · rw [turnLine_signed]
      cases direction <;> simp_all [sign, Direction.opposite]
    · rwa [turnLine_unsigned unsigned]
  empty line := by
    rcases signed_or_unsigned line with ⟨direction, rest, rfl⟩ | unsigned
    · rw [turnLine_signed]
      cases direction <;> simp [sign, Direction.opposite]
    · rw [turnLine_unsigned unsigned]
  ending line := by
    rcases signed_or_unsigned line with ⟨direction, rest, rfl⟩ | unsigned
    · rw [turnLine_signed, Diff.dropReturn_signed, Diff.dropReturn_signed, turnLine_signed]
    · have shorter (direction : Direction) : ¬ sign direction <+: dropReturn line := by
        intro start
        exact unsigned direction (start.trans (dropReturn_prefix_self line))
      rw [turnLine_unsigned unsigned, turnLine_unsigned shorter]

theorem introduces?_turnLine (line : List Char) :
    introduces? (turnLine line) = introduces? line := by
  rcases signed_or_unsigned line with ⟨direction, rest, rfl⟩ | unsigned
  · rw [turnLine_signed, introduces?_signed, introduces?_signed]
  · rw [turnLine_unsigned unsigned]

theorem named_turnLine (direction : Direction) (line : List Char) :
    named direction (turnLine line) = named direction.opposite line := by
  rcases signed_or_unsigned line with ⟨side, rest, rfl⟩ | unsigned
  · rw [turnLine_signed, named, named, arm?_signed, arm?_signed]
    cases armValues? rest with
    | none => rfl
    | some values => cases direction <;> cases side <;> rfl
  · rw [turnLine_unsigned unsigned, named_of_noArm (arm?_unsigned unsigned),
      named_of_noArm (arm?_unsigned unsigned)]

theorem readValues_map_turnLine (direction : Direction) (inside : Bool)
    (lines : List (List Char)) :
    readValues direction inside (lines.map turnLine) =
      readValues direction.opposite inside lines := by
  induction lines generalizing inside with
  | nil => rfl
  | cons line lines ih =>
      rw [List.map_cons, readValues, readValues, named_turnLine, insideAfter,
        introduces?_turnLine, ih, ← insideAfter]

theorem side_turned (patch : List Char) (direction : Direction) :
    side (ofPatch (turned patch)) direction = side (ofPatch patch) direction.opposite := by
  rw [side_ofPatch, side_ofPatch, turned, lines_mapLines turnLine_isLineEdit,
    readValues_map_turnLine, readValues_map_turnLine]

theorem mem_readValues_rearranged {stretch again : List (List Char)}
    (silent : ∀ line ∈ stretch, IntroducesNone line) (same : ∀ line, line ∈ again ↔ line ∈ stretch)
    (direction : Direction) (inside : Bool) (before after : List (List Char)) (value : String) :
    value ∈ readValues direction inside (before ++ again ++ after) ↔
      value ∈ readValues direction inside (before ++ stretch ++ after) := by
  have silentAgain : ∀ line ∈ again, IntroducesNone line := by
    intro line member
    exact silent line ((same line).mp member)
  have alike (inside : Bool) : value ∈ readValues direction inside again ↔
      value ∈ readValues direction inside stretch := by
    rw [readValues_of_introducesNone silentAgain, readValues_of_introducesNone silent]
    cases inside with
    | false => rfl
    | true => simp [same]
  simp only [readValues_append, List.foldl_append, foldl_insideAfter_of_introducesNone silent,
    foldl_insideAfter_of_introducesNone silentAgain, List.mem_append, alike]

theorem ofPatch_eq_of_mem_iff {patch other : List Char}
    (same : ∀ direction value, value ∈ readValues direction false (lines other) ↔
      value ∈ readValues direction false (lines patch)) :
    ofPatch other = ofPatch patch := by
  have sets (direction : Direction) :
      SortedSet.ofList (readValues direction false (lines other)) =
        SortedSet.ofList (readValues direction false (lines patch)) := by
    apply (SortedSet.ofList_ascending _).eq_of_mem_iff (SortedSet.ofList_ascending _)
    intro value
    rw [SortedSet.mem_ofList, SortedSet.mem_ofList, same]
  have sides (direction : Direction) :
      side (ofPatch other) direction = side (ofPatch patch) direction := by
    rw [side_ofPatch, side_ofPatch, sets, sets]
  exact Prod.ext (sides .added) (sides .removed)

/-- Only arms that stand in a function that parses an enum count, a value on both sides counts on
    neither, and the directions, the order of the arms and their number play no part in it. -/
theorem ofPatch_laws (patch : List Char) : Laws patch where
  disjoint := by
    intro value added removed
    exact ((mem_side_iff patch .added value).mp added).2
      ((mem_side_iff patch .removed value).mp removed).1
  turned := Prod.ext (side_turned patch .added) (side_turned patch .removed)
  rearranged := by
    intro other before stretch again after shown shownOther silent same
    apply ofPatch_eq_of_mem_iff
    intro direction value
    rw [shown, shownOther]
    exact mem_readValues_rearranged silent same direction false before after value
  counted := mem_side_iff patch

theorem ofPatch_laws_exchanged :
    ofPatch ("@@ -7 +7 @@ func ParseStatus(s string)\n" ++
        "-\tcase \"draft\", \"open\":\n+\tcase \"open\":\n+\tcase \"open\":\n").toList =
      ofPatch ("@@ -7 +7 @@ func ParseStatus(s string)\n" ++
        "+\tcase \"open\":\n-\tcase \"draft\", \"open\":\n").toList := by
  apply (ofPatch_laws _).rearranged _ ["@@ -7 +7 @@ func ParseStatus(s string)".toList]
    ["+\tcase \"open\":".toList, "-\tcase \"draft\", \"open\":".toList]
    ["-\tcase \"draft\", \"open\":".toList, "+\tcase \"open\":".toList, "+\tcase \"open\":".toList]
    []
  · decide +kernel
  · decide +kernel
  · decide +kernel
  · intro line
    simp only [List.mem_cons, List.not_mem_nil, or_false, or_self]
    exact or_comm

end ReleaseDrift.EnumValues
