import ReleaseDrift.Proofs.EnumValues.Reading
import ReleaseDrift.Proofs.Verdict

/-!
Patches that are laid out for two sets of values. However the arms are written and in whatever
order they stand, what is read from the patch are the values of the one set that the other has not.
-/

namespace ReleaseDrift.EnumValues

open Text
open Diff (sign)

/-- A line that is no arm and introduces nothing. -/
structure Filler where
  text : List Char
  noArm : ∀ arm : Arm, arm.text ≠ text
  silent : IntroducesNone text

def Filler.context (rest : List Char) (silent : IntroducesNone (' ' :: rest)) : Filler where
  text := ' ' :: rest
  noArm arm := by
    rw [Arm.text]
    cases arm.direction <;> simp [sign]
  silent := silent

inductive Row where
  | arm (arm : Arm)
  | filler (filler : Filler)

namespace Row

def text : Row → List Char
  | arm changed => changed.text
  | filler kept => kept.text

def Names (direction : Direction) (value : String) : Row → Prop
  | arm changed => changed.direction = direction ∧ value ∈ changed.values.map Value.name
  | filler _ => False

theorem introducesNone (row : Row) : IntroducesNone row.text := by
  cases row with
  | arm changed => exact (introduces?_eq_none_iff changed.text).mp changed.introduces?_text
  | filler kept => exact kept.silent

theorem mem_named_text (row : Row) (direction : Direction) (value : String) :
    value ∈ named direction row.text ↔ row.Names direction value := by
  cases row with
  | arm changed =>
      rw [text, named_text, List.mem_ite_nil_right]
      rfl
  | filler kept =>
      rw [text, mem_named_iff]
      constructor
      · rintro ⟨arm, same, _⟩
        exact kept.noArm arm same
      · exact False.elim

end Row

/-- A patch of one function that parses an enum. Its arms name the values of `added` on added
    lines and those of `removed` on removed lines. -/
structure Layout (added removed : Finset String) where
  ranges : List Char
  noMark : '@' ∉ ranges
  name : EnumName
  parameters : List Char
  rows : List Row
  adds : ∀ value, value ∈ added ↔ ∃ row ∈ rows, row.Names .added value
  removes : ∀ value, value ∈ removed ↔ ∃ row ∈ rows, row.Names .removed value

namespace Layout

variable {added removed : Finset String} (layout : Layout added removed)

def function : List Char :=
  "func Parse".toList ++ (layout.name.chars ++ '(' :: layout.parameters)

def lines : List (List Char) :=
  ("@@ ".toList ++ (layout.ranges ++ (" @@ ".toList ++ layout.function))) ::
    layout.rows.map Row.text

theorem function_opensParse : OpensParse layout.function :=
  OpensParse.intro ⟨⟨[' '], by simp; decide⟩, by simp⟩ layout.name layout.parameters

theorem insideAfter_header (inside : Bool) :
    insideAfter inside ("@@ ".toList ++ (layout.ranges ++ (" @@ ".toList ++ layout.function))) =
      true := by
  have introduces := Introduces.hunk layout.ranges (' ' :: layout.function) layout.noMark
  have trimmed : trimStart (' ' :: layout.function) = layout.function := rfl
  rw [trimmed, ← introduces?_eq_some_iff] at introduces
  rw [insideAfter]
  refine (congrArg (·.elim inside opensParseFunction) introduces).trans ?_
  exact (opensParseFunction_iff layout.function).mpr layout.function_opensParse

theorem mem_readValues (direction : Direction) (value : String) :
    value ∈ readValues direction false layout.lines ↔
      ∃ row ∈ layout.rows, row.Names direction value := by
  have silent : ∀ line ∈ layout.rows.map Row.text, IntroducesNone line := by
    intro line member
    obtain ⟨row, _, rfl⟩ := List.mem_map.mp member
    exact row.introducesNone
  rw [lines, readValues, insideAfter_header, readValues_of_introducesNone silent]
  simp [Row.mem_named_text]

theorem mem_side (direction : Direction) {patch : List Char}
    (shown : Text.lines patch = layout.lines) (value : String) :
    value ∈ side (ofPatch patch) direction ↔
      value ∈ match direction with
        | .added => added \ removed
        | .removed => removed \ added := by
  rw [mem_side_iff, ← mem_readValues_iff_names, ← mem_readValues_iff_names, shown,
    layout.mem_readValues, layout.mem_readValues]
  cases direction <;> simp only [Direction.opposite, Finset.mem_sdiff, layout.adds, layout.removes]

theorem ofPatch_eq {patch : List Char} (shown : Text.lines patch = layout.lines) :
    ofPatch patch = ((added \ removed).sort (· ≤ ·), (removed \ added).sort (· ≤ ·)) := by
  have sides (direction : Direction) :=
    (side_ascending patch direction).eq_sort (layout.mem_side direction shown)
  exact Prod.ext (sides .added) (sides .removed)

end Layout

end ReleaseDrift.EnumValues

namespace ReleaseDrift.EnumChange

theorem map_level_classify? (change : EnumChange) :
    change.classify?.map (·.level) = change.level? := by
  rw [classify?, Option.map_map]
  exact Option.map_id_apply

theorem ofFile?_eq_none_iff {file : ChangedFile} {patch : String}
    (shown : file.patch = some patch) :
    ofFile? file = none ↔
      (ofPatch file.path patch).added = [] ∧ (ofPatch file.path patch).removed = [] := by
  constructor
  · intro omitted
    by_contra filled
    have found := (ofFile?_eq_some_iff file _).mpr ⟨patch, shown, rfl, filled⟩
    rw [omitted] at found
    contradiction
  · rw [Option.eq_none_iff_forall_ne_some]
    intro empty change found
    obtain ⟨other, shownOther, rfl, filled⟩ := (ofFile?_eq_some_iff file change).mp found
    rw [shown, Option.some_inj] at shownOther
    subst other
    exact filled empty

theorem level_of_patch {file : ChangedFile} {patch : String} (shown : file.patch = some patch) :
    ((ofFile? file).bind (·.classify?)).map (·.level) = (ofPatch file.path patch).level? := by
  by_cases empty : (ofPatch file.path patch).added = [] ∧ (ofPatch file.path patch).removed = []
  · rw [(ofFile?_eq_none_iff shown).mpr empty]
    simp [level?, empty]
  · rw [(ofFile?_eq_some_iff file _).mpr ⟨patch, shown, rfl, empty⟩, Option.bind_some,
      map_level_classify?]

end ReleaseDrift.EnumChange

namespace ReleaseDrift.EnumValues

theorem sort_eq_nil_iff (names : Finset String) : names.sort (· ≤ ·) = [] ↔ names = ∅ := by
  rw [← List.length_eq_zero_iff, Finset.length_sort, Finset.card_eq_zero]

theorem isEmpty_sort (names : Finset String) :
    (names.sort (· ≤ ·)).isEmpty = !decide names.Nonempty := by
  rw [Bool.eq_iff_iff, List.isEmpty_iff, sort_eq_nil_iff]
  simp

/-- From a patch that is laid out for two sets of values what each set has alone is read, in
    ascending order, and a value that is gone decides the level of the file. -/
theorem ofPatch_layout {added removed : Finset String} (layout : Layout added removed)
    {patch : String} (shown : Text.lines patch.toList = layout.lines) :
    ofPatch patch.toList =
        ((added \ removed).sort (· ≤ ·), (removed \ added).sort (· ≤ ·)) ∧
      ∀ file : ChangedFile, file.patch = some patch →
        ((EnumChange.ofFile? file).bind (·.classify?)).map (·.level) =
            (if (removed \ added).Nonempty then some .enumRemoved
              else if (added \ removed).Nonempty then some .enumAdded
              else none) ∧
          (EnumChange.ofFile? file = none ↔ added \ removed = ∅ ∧ removed \ added = ∅) := by
  have read := layout.ofPatch_eq shown
  refine ⟨read, ?_⟩
  intro file given
  constructor
  · rw [EnumChange.level_of_patch given]
    simp only [EnumChange.level?, EnumChange.ofPatch, read, isEmpty_sort, Bool.not_not,
      decide_eq_true_eq]
  · rw [EnumChange.ofFile?_eq_none_iff given]
    simp only [EnumChange.ofPatch, read, sort_eq_nil_iff]

theorem ofPatch_layout_moved :
    ofPatch ("@@ -7,3 +7,3 @@ func ParseStatus(s string)\n var status Status\n" ++
      "- case \"draft\", \"open\":\n+case \"open\" ,\"done\" :\n").toList =
        (["done"], ["draft"]) := by
  let blank : Blanks := ⟨[' '], List.all_eq_true.mp rfl⟩
  let noBlank : Blanks := ⟨[], List.forall_mem_nil _⟩
  let gap : Gap := ⟨blank, by simp [blank]⟩
  let draft : Value := ⟨"draft".toList, by decide +kernel⟩
  let opened : Value := ⟨"open".toList, by decide +kernel⟩
  let done : Value := ⟨"done".toList, by decide +kernel⟩
  let layout : Layout {"open", "done"} {"draft", "open"} :=
    { ranges := "-7,3 +7,3".toList
      noMark := by decide +kernel
      name := ⟨'S', by decide, "tatus".toList, List.all_eq_true.mp (by decide +kernel)⟩
      parameters := "s string)".toList
      rows :=
        [.filler (.context "var status Status".toList (by decide +kernel)),
          .arm ⟨.removed, blank, gap, draft, [⟨noBlank, blank, opened⟩], noBlank, []⟩,
          .arm ⟨.added, noBlank, gap, opened, [⟨blank, noBlank, done⟩], blank, []⟩]
      adds := by
        intro value
        simp [Row.Names, Arm.values, Value.name, draft, opened, done, eq_comm]
      removes := by
        intro value
        simp [Row.Names, Arm.values, Value.name, draft, opened, done, eq_comm] }
  have added : ({"open", "done"} \ {"draft", "open"} : Finset String) = {"done"} := by
    decide +kernel
  have removed : ({"draft", "open"} \ {"open", "done"} : Finset String) = {"draft"} := by
    decide +kernel
  refine (ofPatch_layout layout (by decide +kernel)).1.trans ?_
  rw [added, removed, Finset.sort_singleton, Finset.sort_singleton]

end ReleaseDrift.EnumValues
