import ReleaseDrift.Proofs.Declaration.Mirror
import ReleaseDrift.Proofs.EnumValues.Introduction
import ReleaseDrift.Proofs.SortedSet

/-!
The reading of a patch in closed form: which arms count is a matter of the line before them that
introduced a function last, and the order in which they are read leaves no trace.
-/

namespace ReleaseDrift.EnumValues

open Text
open Diff (sign)

def named (direction : Direction) (line : List Char) : List String :=
  match arm? line with
  | some (side, values) => if side = direction then values.map String.ofList else []
  | none => []

def insideAfter (inside : Bool) (line : List Char) : Bool :=
  (introduces? line).elim inside opensParseFunction

/-- The values of one direction in the order in which they are read. -/
def readValues (direction : Direction) : (inside : Bool) → (lines : List (List Char)) → List String
  | _, [] => []
  | inside, line :: lines =>
      (if inside then named direction line else []) ++
        readValues direction (insideAfter inside line) lines

/-- The last line that introduces a function introduces one that parses an enum. -/
def StandsInParse (before : List (List Char)) : Prop :=
  ∃ earlier line later text, before = earlier ++ line :: later ∧
    Introduces line text ∧ OpensParse text ∧ ∀ other ∈ later, IntroducesNone other

/-- One of the lines is an arm for this value that stands in a function that parses an enum. -/
def Names (lines : List (List Char)) (direction : Direction) (value : String) : Prop :=
  ∃ before after, ∃ arm : Arm, lines = before ++ arm.text :: after ∧ StandsInParse before ∧
    arm.direction = direction ∧ value ∈ arm.values.map Value.name

def side (found : List String × List String) : Direction → List String
  | .added => found.1
  | .removed => found.2

theorem introduces?_signed (direction : Direction) (rest : List Char) :
    introduces? (sign direction ++ rest) =
      if startsWith "func ".toList (trimStart rest) then some (trimStart rest) else none := by
  cases direction <;> rfl

theorem Arm.introduces?_text (arm : Arm) : introduces? arm.text = none := by
  rw [text, introduces?_signed, trimStart_indent]
  rfl

theorem named_text (arm : Arm) (direction : Direction) :
    named direction arm.text =
      if arm.direction = direction then arm.values.map Value.name else [] := by
  rw [named, arm.arm?_text]
  simp only [List.map_map]
  rfl

theorem mem_named_iff (direction : Direction) (line : List Char) (value : String) :
    value ∈ named direction line ↔
      ∃ arm : Arm, arm.text = line ∧ arm.direction = direction ∧
        value ∈ arm.values.map Value.name := by
  constructor
  · intro member
    cases found : arm? line with
    | none => simp [named, found] at member
    | some read =>
        obtain ⟨arm, rfl, _, _⟩ := exists_arm found
        rw [named_text] at member
        split at member
        · rename_i same
          exact ⟨arm, rfl, same, member⟩
        · simp at member
  · rintro ⟨arm, rfl, rfl, member⟩
    rwa [named_text, if_pos rfl]

theorem of_startsFile {line : List Char}
    (start : (startsWith "+++".toList line || startsWith "---".toList line) = true) :
    introduces? line = none ∧ arm? line = none := by
  have shape : ∃ direction, ∃ c rest, (c = '+' ∨ c = '-') ∧
      line = sign direction ++ (c :: rest) := by
    rw [Bool.or_eq_true, startsWith_iff, startsWith_iff] at start
    rcases start with ⟨rest, rfl⟩ | ⟨rest, rfl⟩
    · exact ⟨.added, '+', '+' :: rest, Or.inl rfl, rfl⟩
    · exact ⟨.removed, '-', '-' :: rest, Or.inr rfl, rfl⟩
  obtain ⟨direction, c, rest, signed, rfl⟩ := shape
  have plain : trimStart (c :: rest) = c :: rest := by
    rcases signed with rfl | rfl <;> rfl
  rw [introduces?_signed, arm?_signed, armValues?, plain]
  rcases signed with rfl | rfl <;> exact ⟨rfl, rfl⟩

theorem named_of_introduces {line text : List Char} (introduces : introduces? line = some text)
    (direction : Direction) : named direction line = [] := by
  -- A value on the line would make it an arm, and an arm introduces nothing.
  rw [List.eq_nil_iff_forall_not_mem]
  intro value member
  obtain ⟨arm, rfl, _, _⟩ := (mem_named_iff direction line value).mp member
  simp [arm.introduces?_text] at introduces

theorem named_of_arm? {line : List Char} {side : Direction} {values : List (List Char)}
    (found : arm? line = some (side, values)) (direction : Direction) :
    named direction line = if side = direction then values.map String.ofList else [] := by
  rw [named, found]

theorem named_of_noArm {line : List Char} (noArm : arm? line = none) (direction : Direction) :
    named direction line = [] := by
  rw [named, noArm]

theorem insertAll_nil (set : List String) : SortedSet.insertAll [] set = set := rfl

theorem step_eq (scan : Scan) (line : List Char) :
    scan.step line =
      { inside := insideAfter scan.inside line
        added := SortedSet.insertAll (if scan.inside then named .added line else []) scan.added
        removed :=
          SortedSet.insertAll (if scan.inside then named .removed line else []) scan.removed } := by
  unfold Scan.step
  split
  · rename_i start
    obtain ⟨silent, noArm⟩ := of_startsFile start
    simp [insideAfter, silent, named_of_noArm noArm, insertAll_nil]
  · cases header : hunkContext? line with
    | some context =>
        have introduces : introduces? line = some (trimStart context) := by
          simp [introduces?, header]
        simp [insideAfter, introduces, named_of_introduces introduces, insertAll_nil]
    | none =>
        dsimp only
        by_cases opens : startsWith "func ".toList (body line) = true
        · have introduces : introduces? line = some (body line) := by
            rw [introduces?, header, if_pos opens, Option.map_none, Option.none_or]
          rw [if_pos opens]
          simp [insideAfter, introduces, named_of_introduces introduces, insertAll_nil]
        · have silent : introduces? line = none := by
            rw [introduces?, header, if_neg opens, Option.map_none, Option.none_or]
          rw [if_neg opens]
          obtain ⟨_ | _, added, removed⟩ := scan
          · simp [insideAfter, silent, insertAll_nil]
          · cases found : arm? line with
            | none => simp [insideAfter, silent, named_of_noArm found, insertAll_nil]
            | some read =>
                obtain ⟨_ | _, values⟩ := read <;>
                  simp [insideAfter, silent, named_of_arm? found, insertAll_nil]

theorem foldl_step (scan : Scan) (lines : List (List Char)) :
    lines.foldl Scan.step scan =
      { inside := lines.foldl insideAfter scan.inside
        added := SortedSet.insertAll (readValues .added scan.inside lines) scan.added
        removed := SortedSet.insertAll (readValues .removed scan.inside lines) scan.removed } := by
  induction lines generalizing scan with
  | nil => rfl
  | cons line lines ih =>
      rw [List.foldl_cons, ih, step_eq]
      simp only [readValues, SortedSet.insertAll_append, List.foldl_cons]

theorem side_ofPatch (patch : List Char) (direction : Direction) :
    side (ofPatch patch) direction =
      (SortedSet.ofList (readValues direction false (lines patch))).filter fun value =>
        !(SortedSet.ofList (readValues direction.opposite false (lines patch))).contains value := by
  rw [ofPatch, foldl_step]
  cases direction <;> rfl

theorem readValues_append (direction : Direction) (inside : Bool)
    (before after : List (List Char)) :
    readValues direction inside (before ++ after) =
      readValues direction inside before ++
        readValues direction (before.foldl insideAfter inside) after := by
  induction before generalizing inside with
  | nil => rfl
  | cons line before ih => simp [readValues, ih]

theorem foldl_insideAfter_of_introducesNone {stretch : List (List Char)}
    (silent : ∀ line ∈ stretch, IntroducesNone line) (inside : Bool) :
    stretch.foldl insideAfter inside = inside := by
  induction stretch with
  | nil => rfl
  | cons line stretch ih =>
      rw [List.forall_mem_cons] at silent
      rw [List.foldl_cons, insideAfter, (introduces?_eq_none_iff line).mpr silent.1,
        Option.elim_none, ih silent.2]

theorem readValues_of_introducesNone {stretch : List (List Char)}
    (silent : ∀ line ∈ stretch, IntroducesNone line) (direction : Direction) (inside : Bool) :
    readValues direction inside stretch =
      if inside then stretch.flatMap (named direction) else [] := by
  induction stretch with
  | nil => cases inside <;> rfl
  | cons line stretch ih =>
      rw [List.forall_mem_cons] at silent
      rw [readValues, insideAfter, (introduces?_eq_none_iff line).mpr silent.1, Option.elim_none,
        ih silent.2]
      cases inside <;> rfl

theorem mem_readValues_iff (direction : Direction) (inside : Bool) (lines : List (List Char))
    (value : String) :
    value ∈ readValues direction inside lines ↔
      ∃ before line after, lines = before ++ line :: after ∧
        before.foldl insideAfter inside = true ∧ value ∈ named direction line := by
  constructor
  · intro member
    induction lines generalizing inside with
    | nil => simp [readValues] at member
    | cons line lines ih =>
        rw [readValues, List.mem_append] at member
        rcases member with here | later
        · rw [List.mem_ite_nil_right] at here
          exact ⟨[], line, lines, rfl, here⟩
        · obtain ⟨before, found, after, rfl, stands, names⟩ := ih _ later
          exact ⟨line :: before, found, after, rfl, stands, names⟩
  · rintro ⟨before, line, after, rfl, stands, names⟩
    rw [readValues_append, stands, readValues, if_pos rfl]
    simp [names]

theorem standsInParse_concat (lines : List (List Char)) (last : List Char) :
    StandsInParse (lines ++ [last]) ↔
      (introduces? last).elim (StandsInParse lines) OpensParse := by
  constructor
  · rintro ⟨earlier, line, later, text, split, introduces, opens, silent⟩
    rcases later.eq_nil_or_concat' with rfl | ⟨later, final, rfl⟩
    · obtain ⟨rfl, same⟩ := List.append_inj' split rfl
      cases same
      rwa [(introduces?_eq_some_iff last text).mpr introduces, Option.elim_some]
    · have same : lines ++ [last] = (earlier ++ line :: later) ++ [final] := by simp [split]
      obtain ⟨rfl, lastSame⟩ := List.append_inj' same rfl
      cases lastSame
      rw [List.forall_mem_append, List.forall_mem_singleton] at silent
      rw [(introduces?_eq_none_iff last).mpr silent.2, Option.elim_none]
      exact ⟨earlier, line, later, text, rfl, introduces, opens, silent.1⟩
  · cases found : introduces? last with
    | some text =>
        intro opens
        have introduces := (introduces?_eq_some_iff last text).mp found
        exact ⟨lines, last, [], text, rfl, introduces, opens, List.forall_mem_nil _⟩
    | none =>
        rintro ⟨earlier, line, later, text, rfl, introduces, opens, silent⟩
        refine ⟨earlier, line, later ++ [last], text, by simp, introduces, opens, ?_⟩
        rw [List.forall_mem_append, List.forall_mem_singleton]
        exact ⟨silent, (introduces?_eq_none_iff last).mp found⟩

theorem foldl_insideAfter_iff (lines : List (List Char)) :
    lines.foldl insideAfter false = true ↔ StandsInParse lines := by
  -- The last line decides, or leaves it to the lines before it.
  induction lines using List.reverseRecOn with
  | nil =>
      constructor
      · intro inside
        contradiction
      · rintro ⟨earlier, line, later, text, split, _⟩
        simp at split
  | append_singleton lines last ih =>
      rw [List.foldl_concat, standsInParse_concat, insideAfter]
      cases introduces? last with
      | none => exact ih
      | some text => exact opensParseFunction_iff text

theorem mem_readValues_iff_names (lines : List (List Char)) (direction : Direction)
    (value : String) :
    value ∈ readValues direction false lines ↔ Names lines direction value := by
  rw [mem_readValues_iff]
  constructor
  · rintro ⟨before, line, after, rfl, inside, names⟩
    obtain ⟨arm, rfl, same, member⟩ := (mem_named_iff direction line value).mp names
    exact ⟨before, after, arm, rfl, (foldl_insideAfter_iff before).mp inside, same, member⟩
  · rintro ⟨before, after, arm, rfl, stands, same, member⟩
    exact ⟨before, arm.text, after, rfl, (foldl_insideAfter_iff before).mpr stands,
      (mem_named_iff direction arm.text value).mpr ⟨arm, rfl, same, member⟩⟩

theorem mem_side_iff (patch : List Char) (direction : Direction) (value : String) :
    value ∈ side (ofPatch patch) direction ↔
      Names (lines patch) direction value ∧ ¬ Names (lines patch) direction.opposite value := by
  rw [side_ofPatch, List.mem_filter, SortedSet.mem_ofList, mem_readValues_iff_names,
    Bool.not_eq_true', ← Bool.not_eq_true, List.contains_iff_mem, SortedSet.mem_ofList,
    mem_readValues_iff_names]

theorem side_ascending (patch : List Char) (direction : Direction) :
    SortedSet.Ascending (side (ofPatch patch) direction) := by
  rw [side_ofPatch]
  exact (SortedSet.ofList_ascending _).filter _

end ReleaseDrift.EnumValues
