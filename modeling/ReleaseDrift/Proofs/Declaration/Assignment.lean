import Mathlib.Data.List.Infix
import ReleaseDrift.Declaration.Line
import ReleaseDrift.Proofs.Text.Affix

/-!
Assignments in a line: `:=` anywhere, or another assignment mark between two blanks. A blank cuts a
line in two that are searched apart, except for a mark right before it.
-/

namespace ReleaseDrift.Declaration

open Text

def Assigns (s : List Char) : Prop :=
  [':', '='] <:+: s ∨
    ∃ mark ∈ assignmentMarks, ∃ first last, isBlank first = true ∧ isBlank last = true ∧
      first :: (mark ++ [last]) <:+: s

def EndsInAssignment (s : List Char) : Prop :=
  ∃ mark ∈ assignmentMarks, ∃ first, isBlank first = true ∧ first :: mark <:+ s

theorem startsWithAssignment_iff (s : List Char) :
    startsWithAssignment s = true ↔
      ∃ mark ∈ assignmentMarks, ∃ last, isBlank last = true ∧ mark ++ [last] <+: s := by
  rw [startsWithAssignment, List.any_eq_true]
  refine exists_congr fun mark => and_congr_right fun _ => ?_
  constructor
  · intro found
    split at found
    · rename_i last rest start
      rw [after?_eq_some_iff] at start
      exact ⟨last, found, rest, by simp [start]⟩
    · contradiction
  · rintro ⟨last, blank, rest, rfl⟩
    rw [List.append_assoc, after?_append]
    exact blank

theorem hasAssignment_iff (s : List Char) : hasAssignment s = true ↔ Assigns s := by
  induction s with
  | nil => simp [hasAssignment, Assigns]
  | cons c s ih =>
      have short : startsWith ":=".toList (c :: s) = true ↔ [':', '='] <+: c :: s :=
        startsWith_iff _ _
      rw [hasAssignment, Bool.or_eq_true, Bool.or_eq_true, Bool.and_eq_true, short,
        startsWithAssignment_iff, ih, Assigns, Assigns, List.infix_cons_iff]
      constructor
      · rintro ((start | ⟨blank, mark, listed, last, blankLast, start⟩) |
          (inside | ⟨mark, listed, first, last, blank, blankLast, inside⟩))
        · exact .inl (.inl start)
        · exact .inr ⟨mark, listed, c, last, blank, blankLast,
            (List.cons_prefix_cons.mpr ⟨rfl, start⟩).isInfix⟩
        · exact .inl (.inr inside)
        · exact .inr ⟨mark, listed, first, last, blank, blankLast,
            inside.trans (List.suffix_cons c s).isInfix⟩
      · rintro ((start | inside) | ⟨mark, listed, first, last, blank, blankLast, inside⟩)
        · exact .inl (.inl start)
        · exact .inr (.inl inside)
        · rcases List.infix_cons_iff.mp inside with here | later
          · obtain ⟨rfl, start⟩ := List.cons_prefix_cons.mp here
            exact .inl (.inr ⟨blank, mark, listed, last, blankLast, start⟩)
          · exact .inr (.inr ⟨mark, listed, first, last, blank, blankLast, later⟩)

theorem assignmentMarks_plain : ∀ mark ∈ assignmentMarks, ∀ c ∈ mark, isBlank c = false := by
  simp [assignmentMarks, isBlank]

theorem startsWithAssignment_append {c : Char} (blank : isBlank c = true) (s tail : List Char) :
    startsWithAssignment (s ++ c :: tail) = startsWithAssignment (s ++ [c]) := by
  have whole : s ++ [c] <+: s ++ c :: tail := ⟨tail, (List.append_cons s c tail).symm⟩
  rw [Bool.eq_iff_iff, startsWithAssignment_iff, startsWithAssignment_iff]
  refine exists_congr fun mark => and_congr_right fun listed =>
    exists_congr fun last => and_congr_right fun _ =>
      ⟨fun start => ?_, fun start => start.trans whole⟩
  have short : mark.length ≤ s.length := by
    by_contra long
    have taken : s ++ [c] <+: mark :=
      List.prefix_of_prefix_length_le whole ((List.prefix_append mark [last]).trans start)
        (by rw [List.length_append, List.length_singleton]; omega)
    have inside : c ∈ mark := taken.subset (by simp)
    rw [assignmentMarks_plain mark listed c inside] at blank
    contradiction
  exact List.prefix_of_prefix_length_le start whole (by simpa using short)

theorem hasAssignment_append {c : Char} (blank : isBlank c = true) (s tail : List Char) :
    hasAssignment (s ++ c :: tail) = (hasAssignment (s ++ [c]) || hasAssignment (c :: tail)) := by
  have different : c ≠ '=' := by
    rintro rfl
    contradiction
  induction s with
  | nil =>
      have alone : hasAssignment [c] = false := by
        simp [hasAssignment, startsWith, after?, startsWithAssignment, assignmentMarks]
      rw [List.nil_append, List.nil_append, alone, Bool.false_or]
  | cons d s ih =>
      have short : startsWith ":=".toList (d :: (s ++ c :: tail)) =
          startsWith ":=".toList (d :: (s ++ [c])) := by
        rw [Bool.eq_iff_iff, startsWith_iff, startsWith_iff]
        cases s <;> simp [List.cons_prefix_cons, different.symm]
      rw [List.cons_append, List.cons_append, hasAssignment, hasAssignment, short,
        startsWithAssignment_append blank, ih, Bool.or_assoc]
      simp only [Bool.or_assoc]

theorem assigns_append_singleton_iff {c : Char} (blank : isBlank c = true) (s : List Char) :
    Assigns (s ++ [c]) ↔ Assigns s ∨ EndsInAssignment s := by
  have short : [':', '='] <:+: s ++ [c] ↔ [':', '='] <:+: s := by
    have notEnd : ¬ [':', '='] <:+ s ++ [c] := by
      intro ending
      obtain rfl : '=' = c := by simpa using ending.getLast (by simp)
      contradiction
    rw [List.infix_concat_iff, or_iff_right notEnd]
  rw [Assigns, Assigns, short, or_assoc]
  refine or_congr_right ?_
  constructor
  · rintro ⟨mark, listed, first, last, blankFirst, blankLast, inside⟩
    rcases List.infix_concat_iff.mp inside with ending | earlier
    · obtain ⟨before, same⟩ := ending
      rw [← List.cons_append, ← List.append_assoc] at same
      exact .inr ⟨mark, listed, first, blankFirst, before, (List.append_inj' same rfl).1⟩
    · exact .inl ⟨mark, listed, first, last, blankFirst, blankLast, earlier⟩
  · rintro (⟨mark, listed, first, last, blankFirst, blankLast, inside⟩ |
      ⟨mark, listed, first, blankFirst, before, rfl⟩)
    · exact ⟨mark, listed, first, last, blankFirst, blankLast,
        inside.trans (List.prefix_append s [c]).isInfix⟩
    · exact ⟨mark, listed, first, c, blankFirst, blank, before, [], by simp⟩

/-- A blank that is put between two texts can end an assignment of the first and begin one of the
    second, but no assignment goes across it. -/
theorem assigns_append_iff {c : Char} (blank : isBlank c = true) (s tail : List Char) :
    Assigns (s ++ c :: tail) ↔ (Assigns s ∨ EndsInAssignment s) ∨ Assigns (c :: tail) := by
  rw [← assigns_append_singleton_iff blank, ← hasAssignment_iff, hasAssignment_append blank,
    Bool.or_eq_true, hasAssignment_iff, hasAssignment_iff]

end ReleaseDrift.Declaration
