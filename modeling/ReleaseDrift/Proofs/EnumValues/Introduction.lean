import ReleaseDrift.Proofs.EnumValues.Arm

/-!
The lines that say which function the lines after them stand in: hunk headers with their context,
and lines that open a function.
-/

namespace ReleaseDrift.EnumValues

open Text
open Diff (sign)

structure EnumName where
  initial : Char
  upper : 'A' ≤ initial ∧ initial ≤ 'Z'
  more : List Char
  word : ∀ c ∈ more, isWord c = true

def EnumName.chars (name : EnumName) : List Char := name.initial :: name.more

inductive OpensParse : List Char → Prop
  | intro (gap : Gap) (name : EnumName) (rest : List Char) :
      OpensParse ("func".toList ++ (gap.chars ++ ("Parse".toList ++ (name.chars ++ '(' :: rest))))

/-- The line says that the lines after it stand in the function that `text` opens. -/
inductive Introduces : (line text : List Char) → Prop
  | hunk (ranges context : List Char) (noMark : '@' ∉ ranges) :
      Introduces ("@@ ".toList ++ (ranges ++ (" @@".toList ++ context))) (trimStart context)
  | function (marker : Char) (narrow : marker.utf8Size = 1) (indent : Blanks) (rest : List Char) :
      Introduces (marker :: (indent.chars ++ ("func ".toList ++ rest))) ("func ".toList ++ rest)

/-- The line leaves the lines after it in the function that those before it stand in. -/
def IntroducesNone (line : List Char) : Prop := ∀ text, ¬ Introduces line text

def introduces? (line : List Char) : Option (List Char) :=
  ((hunkContext? line).map trimStart).or
    (if startsWith "func ".toList (body line) then some (body line) else none)

theorem opensParseFunction_iff (s : List Char) : opensParseFunction s = true ↔ OpensParse s := by
  constructor
  · intro opens
    unfold opensParseFunction at opens
    split at opens
    · rename_i c rest start
      rw [after?_eq_some_iff] at start
      rw [Bool.and_eq_true] at opens
      obtain ⟨blank, opens⟩ := opens
      split at opens
      · rename_i initial named parse
        rw [after?_eq_some_iff] at parse
        simp only [Bool.and_eq_true, decide_eq_true_eq, beq_iff_eq] at opens
        obtain ⟨upper, bracket⟩ := opens
        obtain ⟨tail, split⟩ := List.head?_eq_some_iff.mp bracket
        obtain ⟨gap, whole⟩ := Gap.exists_append_trimStart (s := c :: rest) (by simpa using blank)
        have trimmed : trimStart (c :: rest) = trimStart rest := List.dropWhile_cons_of_pos blank
        let name : EnumName :=
          ⟨initial, upper, named.takeWhile isWord, fun _ member => List.mem_takeWhile_imp member⟩
        have word := List.takeWhile_append_dropWhile (p := isWord) (l := named)
        have shown : s = "func".toList ++ (gap.chars ++
            ("Parse".toList ++ (name.chars ++ '(' :: tail))) := by
          rw [start, whole, trimmed, parse]
          simp [name, EnumName.chars, ← split, word]
        rw [shown]
        exact OpensParse.intro gap name tail
      · contradiction
    · contradiction
  · rintro ⟨gap, name, rest⟩
    obtain ⟨c, blanks, split⟩ := List.exists_cons_of_ne_nil gap.filled
    let parse := "Parse".toList ++ (name.chars ++ '(' :: rest)
    have blank : isBlank c = true := gap.blank c (by simp [split])
    have trimmed : trimStart (blanks ++ parse) = parse := by
      have whole : trimStart (gap.chars ++ parse) = parse :=
        gap.trimStart_append_of_plain (by simp [parse]; decide)
      rwa [split, List.cons_append, trimStart, List.dropWhile_cons_of_pos blank] at whole
    have word : (name.more ++ '(' :: rest).dropWhile isWord = '(' :: rest :=
      dropWhile_append_stop name.word (by simp; decide)
    have read : after? "Parse".toList parse = some (name.initial :: (name.more ++ '(' :: rest)) :=
      after?_append _ _
    rw [opensParseFunction, after?_append, split, List.cons_append]
    dsimp only
    rw [trimmed, read]
    simp [blank, name.upper, word]

theorem hunkContext?_eq_some_iff (line text : List Char) :
    (hunkContext? line).map trimStart = some text ↔
      ∃ ranges context, '@' ∉ ranges ∧ trimStart context = text ∧
        line = "@@ ".toList ++ (ranges ++ (" @@".toList ++ context)) := by
  constructor
  · intro found
    obtain ⟨shown, cut, rfl⟩ := Option.map_eq_some_iff.mp found
    rw [hunkContext?, Option.bind_eq_some_iff] at cut
    obtain ⟨rest, start, cut⟩ := cut
    rw [after?_eq_some_iff] at start
    split at cut
    · rename_i space
      obtain ⟨context, close, rfl⟩ := Option.map_eq_some_iff.mp cut
      rw [after?_eq_some_iff] at close
      obtain ⟨ranges, split⟩ := List.getLast?_eq_some_iff.mp (beq_iff_eq.mp space)
      have whole := List.takeWhile_append_dropWhile (p := (· != '@')) (l := rest)
      refine ⟨ranges, context, ?_, ?_, ?_⟩
      · intro member
        have inside : '@' ∈ ranges ++ [' '] := List.mem_append_left _ member
        exact notMem_takeWhile_bne '@' rest (split ▸ inside)
      · split <;> rfl
      · rw [start, ← whole, split, close]
        simp
    · contradiction
  · rintro ⟨ranges, context, noMark, rfl, rfl⟩
    have inside : ∀ c ∈ ranges ++ [' '], (c != '@') = true :=
      bne_of_notMem (by simp [noMark])
    let close := "@@".toList ++ context
    have marked : ∀ c ∈ close.head?, (c != '@') = false := by simp [close]
    have shape : ranges ++ (" @@".toList ++ context) = (ranges ++ [' ']) ++ close := by simp [close]
    rw [hunkContext?, after?_append, Option.bind_some, shape, takeWhile_append_stop inside marked,
      dropWhile_append_stop inside marked, if_pos (by simp), after?_append, Option.map_some,
      Option.map_some]
    split <;> rfl

theorem body_cons {marker : Char} (narrow : marker.utf8Size = 1) (rest : List Char) :
    body (marker :: rest) = trimStart rest := if_pos narrow

theorem body_function {marker : Char} (narrow : marker.utf8Size = 1) (indent : Blanks)
    (rest : List Char) :
    body (marker :: (indent.chars ++ ("func ".toList ++ rest))) = "func ".toList ++ rest := by
  rw [body_cons narrow]
  exact indent.trimStart_append_of_plain (by simp; decide)

theorem body_hunk (rest : List Char) : body ("@@ ".toList ++ rest) = "@ ".toList ++ rest := rfl

theorem introduces?_eq_some_iff (line text : List Char) :
    introduces? line = some text ↔ Introduces line text := by
  rw [introduces?, Option.or_eq_some_iff, hunkContext?_eq_some_iff]
  constructor
  · rintro (⟨ranges, context, noMark, rfl, rfl⟩ | ⟨_, opened⟩)
    · exact Introduces.hunk ranges context noMark
    · rw [Option.ite_none_right_eq_some, startsWith_iff] at opened
      obtain ⟨⟨rest, start⟩, same⟩ := opened
      cases same
      rw [← start]
      cases line with
      | nil => simp [body] at start
      | cons marker rest =>
          by_cases narrow : marker.utf8Size = 1
          · rw [body_cons narrow] at start
            obtain ⟨indent, whole⟩ := Blanks.exists_append_trimStart rest
            rw [whole, ← start]
            exact Introduces.function marker narrow indent _
          · simp [body, narrow] at start
  · rintro (⟨ranges, context, noMark⟩ | ⟨marker, narrow, indent, rest⟩)
    · exact Or.inl ⟨ranges, context, noMark, rfl, rfl⟩
    · rw [body_function narrow, if_pos ((startsWith_iff _ _).mpr (List.prefix_append _ _))]
      refine Or.inr ⟨?_, rfl⟩
      rw [Option.eq_none_iff_forall_ne_some]
      intro text found
      obtain ⟨ranges, context, _, _, same⟩ := (hunkContext?_eq_some_iff _ _).mp found
      have bodies := congrArg body same
      rw [body_function narrow, body_hunk] at bodies
      simp at bodies

theorem introduces?_eq_none_iff (line : List Char) :
    introduces? line = none ↔ IntroducesNone line := by
  simp only [Option.eq_none_iff_forall_ne_some, ne_eq, introduces?_eq_some_iff, IntroducesNone]

instance (line : List Char) : Decidable (IntroducesNone line) :=
  decidable_of_iff _ (introduces?_eq_none_iff line)

end ReleaseDrift.EnumValues
