import ReleaseDrift.Diff.EnumValues
import ReleaseDrift.Proofs.Diff.SignedLine
import ReleaseDrift.Proofs.Text.WordChar

/-!
The arms of a `case` as texts. A changed line is read as an arm exactly when it is written as one,
and its values are then those between its quotation marks.
-/

namespace ReleaseDrift.EnumValues

open Text
open Diff (sign)

structure Blanks where
  chars : List Char
  blank : ∀ c ∈ chars, isBlank c = true

structure Gap extends Blanks where
  filled : chars ≠ []

structure Value where
  chars : List Char
  noQuote : '"' ∉ chars

namespace Value

def name (value : Value) : String := String.ofList value.chars

def quoted (value : Value) : List Char := '"' :: (value.chars ++ ['"'])

end Value

/-- A value that is not the first of its arm, and the blanks around the comma before it. -/
structure Further where
  before : Blanks
  after : Blanks
  value : Value

def Further.text (further : Further) : List Char :=
  further.before.chars ++ ',' :: (further.after.chars ++ further.value.quoted)

def listText (first : Value) (more : List Further) : List Char :=
  first.quoted ++ more.flatMap Further.text

/-- A changed line `case "a", "b":`, with everything about it that can be written in more than
    one way. -/
structure Arm where
  direction : Direction
  indent : Blanks
  gap : Gap
  first : Value
  more : List Further
  close : Blanks
  rest : List Char

namespace Arm

def values (arm : Arm) : List Value := arm.first :: arm.more.map (·.value)

def tail (arm : Arm) : List Char :=
  listText arm.first arm.more ++ (arm.close.chars ++ ':' :: arm.rest)

def text (arm : Arm) : List Char :=
  sign arm.direction ++ (arm.indent.chars ++ ("case".toList ++ (arm.gap.chars ++ arm.tail)))

end Arm

namespace Blanks

theorem trimStart_append (blanks : Blanks) (s : List Char) :
    trimStart (blanks.chars ++ s) = trimStart s :=
  List.dropWhile_append_of_pos blanks.blank

theorem trimStart_append_of_plain (blanks : Blanks) {s : List Char}
    (plain : ∀ c ∈ s.head?, isBlank c = false) : trimStart (blanks.chars ++ s) = s := by
  rw [trimStart_append, trimStart_of_plain plain]

theorem exists_append_trimStart (s : List Char) :
    ∃ blanks : Blanks, s = blanks.chars ++ trimStart s := by
  refine ⟨⟨s.takeWhile isBlank, ?_⟩, ?_⟩
  · intro c member
    exact List.mem_takeWhile_imp member
  · exact List.takeWhile_append_dropWhile.symm

end Blanks

namespace Gap

theorem head?_append (gap : Gap) (s : List Char) : (gap.chars ++ s).head?.any isBlank = true := by
  obtain ⟨c, blanks, split⟩ := List.exists_cons_of_ne_nil gap.filled
  have blank : isBlank c = true := gap.blank c (by simp [split])
  simp [split, blank]

theorem exists_append_trimStart {s : List Char} (starts : s.head?.any isBlank = true) :
    ∃ gap : Gap, s = gap.chars ++ trimStart s := by
  obtain ⟨blanks, whole⟩ := Blanks.exists_append_trimStart s
  refine ⟨⟨blanks, ?_⟩, whole⟩
  intro empty
  rw [empty, List.nil_append] at whole
  cases s with
  | nil => simp at starts
  | cons c s =>
      have plain : isBlank c = false := by
        have fails := List.head?_dropWhile_not isBlank (c :: s)
        rw [← trimStart, ← whole] at fails
        simpa using fails
      simp [plain] at starts

end Gap

theorem bne_of_notMem {mark : Char} {s : List Char} (absent : mark ∉ s) :
    ∀ c ∈ s, (c != mark) = true := by
  intro c member
  rw [bne_iff_ne]
  rintro rfl
  exact absent member

theorem notMem_takeWhile_bne (mark : Char) (s : List Char) : mark ∉ s.takeWhile (· != mark) := by
  intro member
  have passes := List.mem_takeWhile_imp member
  simp at passes

theorem quoted?_eq_some_iff (s chars rest : List Char) :
    quoted? s = some (chars, rest) ↔
      ∃ value : Value, value.chars = chars ∧ s = value.quoted ++ rest := by
  constructor
  · intro found
    unfold quoted? at found
    split at found
    · rename_i inner
      split at found
      · rename_i mark tail split
        cases found
        have stop : mark = '"' := by
          have fails := List.head?_dropWhile_not (· != '"') inner
          simpa [split] using fails
        have whole := List.takeWhile_append_dropWhile (p := (· != '"')) (l := inner)
        refine ⟨⟨inner.takeWhile (· != '"'), notMem_takeWhile_bne '"' inner⟩, rfl, ?_⟩
        rw [split, stop] at whole
        simp [Value.quoted, whole]
      · contradiction
    · contradiction
  · rintro ⟨value, rfl, rfl⟩
    have inside := bne_of_notMem value.noQuote
    have inner : value.quoted ++ rest = '"' :: (value.chars ++ '"' :: rest) := by
      simp [Value.quoted]
    rw [inner, quoted?, dropWhile_append_stop inside (by simp),
      takeWhile_append_stop inside (by simp)]

theorem listText_singleton (first : Value) : listText first [] = first.quoted := by
  simp [listText]

theorem listText_cons (first : Value) (further : Further) (more : List Further) :
    listText first (further :: more) = first.quoted ++ (further.before.chars ++
      ',' :: (further.after.chars ++ listText further.value more)) := by
  simp [listText, Further.text]

theorem listText_startsPlain (first : Value) (more : List Further) (rest : List Char) :
    ∀ c ∈ (listText first more ++ rest).head?, isBlank c = false := by
  intro c head
  obtain rfl : '"' = c := by simpa [listText, Value.quoted] using head
  decide

theorem quotedList?_append (first : Value) (more : List Further) {rest : List Char}
    (stop : (trimStart rest).head? ≠ some ',') {fuel : Nat} (enough : more.length < fuel) :
    quotedList? fuel (listText first more ++ rest) =
      some (first.chars :: more.map (·.value.chars), rest) := by
  induction more generalizing first fuel with
  | nil =>
      cases fuel with
      | zero => simp at enough
      | succ fuel =>
          have read : quoted? (listText first [] ++ rest) = some (first.chars, rest) :=
            (quoted?_eq_some_iff _ _ _).mpr ⟨first, rfl, by rw [listText_singleton]⟩
          rw [quotedList?, read, Option.bind_some]
          dsimp only
          split
          · rename_i tail comma
            simp [comma] at stop
          · rfl
  | cons further more ih =>
      cases fuel with
      | zero => simp at enough
      | succ fuel =>
          let others := listText further.value more ++ rest
          have others_plain := listText_startsPlain further.value more rest
          have read : quoted? (listText first (further :: more) ++ rest) =
              some (first.chars, further.before.chars ++ ',' :: (further.after.chars ++ others)) :=
            (quoted?_eq_some_iff _ _ _).mpr ⟨first, rfl, by simp [listText_cons, others]⟩
          have comma : trimStart (further.before.chars ++ ',' :: (further.after.chars ++ others)) =
              ',' :: (further.after.chars ++ others) :=
            further.before.trimStart_append_of_plain (by simp; decide)
          have next : trimStart (further.after.chars ++ others) = others :=
            further.after.trimStart_append_of_plain others_plain
          have fewer : more.length < fuel := by
            simp only [List.length_cons] at enough
            omega
          rw [quotedList?, read, Option.bind_some]
          simp only [comma, next, others, ih further.value fewer, Option.map_some, List.map_cons]

theorem exists_of_quotedList? {fuel : Nat} {s rest : List Char} {values : List (List Char)}
    (found : quotedList? fuel s = some (values, rest)) :
    ∃ first more, values = first.chars :: more.map (·.value.chars) ∧
      s = listText first more ++ rest := by
  induction fuel generalizing s values with
  | zero => simp [quotedList?] at found
  | succ fuel ih =>
      rw [quotedList?, Option.bind_eq_some_iff] at found
      obtain ⟨⟨chars, tail⟩, read, found⟩ := found
      obtain ⟨first, rfl, rfl⟩ := (quoted?_eq_some_iff s chars tail).mp read
      dsimp only at found
      split at found
      · rename_i inner comma
        obtain ⟨⟨others, last⟩, later, same⟩ := Option.map_eq_some_iff.mp found
        cases same
        obtain ⟨value, more, rfl, shown⟩ := ih later
        obtain ⟨before, whole⟩ := Blanks.exists_append_trimStart tail
        obtain ⟨after, wholeInner⟩ := Blanks.exists_append_trimStart inner
        refine ⟨first, ⟨before, after, value⟩ :: more, rfl, ?_⟩
        rw [comma, wholeInner, shown] at whole
        rw [listText_cons, whole]
        simp
      · cases found
        exact ⟨first, [], rfl, by rw [listText_singleton]⟩

/-- The values of an arm, from the text after its sign. -/
def armValues? (s : List Char) : Option (List (List Char)) :=
  (after? "case".toList (trimStart s)).bind fun rest =>
    if rest.head?.any isBlank then
      (quotedList? (trimStart rest).length (trimStart rest)).bind fun (values, rest) =>
        if (trimStart rest).head? = some ':' then some values else none
    else none

theorem arm?_signed (direction : Direction) (s : List Char) :
    arm? (sign direction ++ s) = (armValues? s).map (direction, ·) := by
  have signed : arm? (sign direction ++ s) =
      (after? "case".toList (trimStart s)).bind fun rest => (do
        if !rest.head?.any isBlank then none
        let rest := trimStart rest
        let (values, rest) ← quotedList? rest.length rest
        if (trimStart rest).head? = some ':' then some (direction, values) else none) := by
    cases direction <;> rfl
  rw [signed, armValues?]
  cases after? "case".toList (trimStart s) with
  | none => rfl
  | some rest =>
      rw [Option.bind_some, Option.bind_some]
      cases rest.head?.any isBlank with
      | false => rfl
      | true =>
          cases found : quotedList? (trimStart rest).length (trimStart rest) with
          | none => simp [found]
          | some list =>
              simp only [Bool.not_true, Bool.false_eq_true, if_false, if_true, found,
                Option.bind_some, Option.bind_eq_bind]
              split <;> rfl

theorem signed_or_unsigned (line : List Char) :
    (∃ direction rest, line = sign direction ++ rest) ∨ ∀ direction, ¬ sign direction <+: line := by
  by_cases signed : ∃ direction, sign direction <+: line
  · obtain ⟨direction, rest, rfl⟩ := signed
    exact Or.inl ⟨direction, rest, rfl⟩
  · exact Or.inr (not_exists.mp signed)

theorem arm?_unsigned {line : List Char} (unsigned : ∀ direction, ¬ sign direction <+: line) :
    arm? line = none := by
  unfold arm?
  split
  · exact absurd (List.prefix_append _ _) (unsigned .added)
  · exact absurd (List.prefix_append _ _) (unsigned .removed)
  · rfl

namespace Arm

theorem length_more_lt (arm : Arm) : arm.more.length < arm.tail.length := by
  have longer (more : List Further) : more.length ≤ (more.flatMap Further.text).length := by
    induction more with
    | nil => simp
    | cons further more ih =>
        simp only [List.flatMap_cons, List.length_append, List.length_cons, Further.text]
        omega
  have bound := longer arm.more
  simp only [tail, listText, Value.quoted, List.length_append, List.length_cons]
  omega

theorem trimStart_indent (arm : Arm) :
    trimStart (arm.indent.chars ++ ("case".toList ++ (arm.gap.chars ++ arm.tail))) =
      "case".toList ++ (arm.gap.chars ++ arm.tail) :=
  arm.indent.trimStart_append_of_plain (by simp; decide)

theorem armValues?_body (arm : Arm) :
    armValues? (arm.indent.chars ++ ("case".toList ++ (arm.gap.chars ++ arm.tail))) =
      some (arm.values.map (·.chars)) := by
  have list : trimStart (arm.gap.chars ++ arm.tail) = arm.tail :=
    arm.gap.trimStart_append_of_plain (listText_startsPlain arm.first arm.more _)
  have colon : trimStart (arm.close.chars ++ ':' :: arm.rest) = ':' :: arm.rest :=
    arm.close.trimStart_append_of_plain (by simp; decide)
  have read : quotedList? arm.tail.length arm.tail =
      some (arm.first.chars :: arm.more.map (·.value.chars), arm.close.chars ++ ':' :: arm.rest) :=
    quotedList?_append arm.first arm.more (by simp [colon]) arm.length_more_lt
  rw [armValues?, trimStart_indent, after?_append, Option.bind_some,
    if_pos (arm.gap.head?_append _), list, read, Option.bind_some]
  simp [colon, values]

theorem arm?_text (arm : Arm) :
    arm? arm.text = some (arm.direction, arm.values.map (·.chars)) := by
  rw [text, arm?_signed, armValues?_body]
  rfl

end Arm

theorem exists_of_armValues? {s : List Char} {values : List (List Char)}
    (found : armValues? s = some values) (direction : Direction) :
    ∃ arm : Arm, arm.text = sign direction ++ s ∧ arm.direction = direction ∧
      arm.values.map (·.chars) = values := by
  rw [armValues?, Option.bind_eq_some_iff] at found
  obtain ⟨afterCase, start, found⟩ := found
  rw [after?_eq_some_iff] at start
  split at found
  · rename_i gapped
    rw [Option.bind_eq_some_iff] at found
    obtain ⟨⟨list, close⟩, listed, found⟩ := found
    dsimp only at found
    split at found
    · rename_i colon
      cases found
      obtain ⟨indent, whole⟩ := Blanks.exists_append_trimStart s
      obtain ⟨gap, wholeGap⟩ := Gap.exists_append_trimStart gapped
      obtain ⟨blanks, wholeClose⟩ := Blanks.exists_append_trimStart close
      obtain ⟨first, more, rfl, shown⟩ := exists_of_quotedList? listed
      obtain ⟨rest, colonRest⟩ := List.head?_eq_some_iff.mp colon
      refine ⟨⟨direction, indent, gap, first, more, blanks, rest⟩, ?_, rfl, ?_⟩
      · rw [Arm.text, Arm.tail, ← colonRest, ← wholeClose, ← shown, ← wholeGap, ← start, ← whole]
      · simp [Arm.values]
    · contradiction
  · contradiction

theorem exists_arm {line : List Char} {direction : Direction} {values : List (List Char)}
    (found : arm? line = some (direction, values)) :
    ∃ arm : Arm, arm.text = line ∧ arm.direction = direction ∧
      arm.values.map (·.chars) = values := by
  rcases signed_or_unsigned line with ⟨side, s, rfl⟩ | unsigned
  · rw [arm?_signed, Option.map_eq_some_iff] at found
    obtain ⟨values, read, same⟩ := found
    cases same
    exact exists_of_armValues? read direction
  · rw [arm?_unsigned unsigned] at found
    contradiction

end ReleaseDrift.EnumValues
