import Mathlib.Data.List.TakeWhile
import ReleaseDrift.Proofs.Diff.ChangeLine
import ReleaseDrift.Proofs.Text.Affix

/-!
Which lines are headers, and the role of a line as far as its first characters decide it.
-/

namespace ReleaseDrift.Diff

open Text

/-- A path that a header line can hold and give back. -/
structure IsPlain (path : List Char) : Prop where
  noFeed : '\n' ∉ path
  noTab : '\t' ∉ path
  endsPlain : EndsPlain path

instance (path : List Char) : Decidable (IsPlain path) :=
  decidable_of_iff ('\n' ∉ path ∧ '\t' ∉ path ∧ EndsPlain path)
    ⟨fun plain => ⟨plain.1, plain.2.1, plain.2.2⟩,
      fun plain => ⟨plain.noFeed, plain.noTab, plain.endsPlain⟩⟩

def pathMarks : List (List Char) := ["diff --git ", "+++ ", "--- "].map String.toList

def bothSides (path : List Char) : List Char :=
  "a/".toList ++ path ++ " b/".toList ++ path

theorem bothSides_eq (path : List Char) :
    bothSides path = ("a/".toList ++ path) ++ ' ' :: ("b/".toList ++ path) := by
  simp [bothSides]

theorem bothSides_inj {path other : List Char} : bothSides path = bothSides other ↔ path = other := by
  constructor
  · intro same
    -- Each text is two paths long and five characters more.
    have lengths : (bothSides path).length = (bothSides other).length := congrArg List.length same
    simp only [bothSides, List.length_append] at lengths
    have sameLength : path.length = other.length := by omega
    exact (List.append_inj' same sameLength).2
  · rintro rfl
    rfl

theorem byteLength_bothSides (path : List Char) :
    byteLength (bothSides path) = 2 * byteLength ("a/".toList ++ path) + 1 := by
  have newSide : byteLength (' ' :: ("b/".toList ++ path)) =
      byteLength ("a/".toList ++ path) + 1 := by
    simp [byteLength, Char.utf8Size]
    omega
  rw [bothSides_eq, byteLength_append, newSide]
  omega

/-- The sides are the halves at the middle byte, and no other text is cut there into them. -/
theorem cutAtByte?_middle_iff (rest path : List Char) :
    (byteLength rest % 2 = 1 ∧ cutAtByte? (byteLength rest / 2) rest =
      some ("a/".toList ++ path, ' ' :: ("b/".toList ++ path))) ↔ rest = bothSides path := by
  constructor
  · rintro ⟨_, halves⟩
    rw [bothSides_eq]
    exact (cutAtByte?_eq_some_iff.mp halves).1
  · rintro rfl
    have middle : (2 * byteLength ("a/".toList ++ path) + 1) / 2 =
        byteLength ("a/".toList ++ path) := by omega
    rw [byteLength_bothSides, middle, bothSides_eq, cutAtByte?_append]
    exact ⟨by omega, rfl⟩

/-- The header of a file that was not renamed is cut in its middle, whatever the path holds. -/
theorem gitHeaderPath?_bothSides (path : List Char) :
    gitHeaderPath? (bothSides path) = some path := by
  obtain ⟨odd, halves⟩ := (cutAtByte?_middle_iff (bothSides path) path).mpr rfl
  rw [gitHeaderPath?, odd]
  simp only [BEq.rfl, if_true, halves, after?_append]

def sides : List (List Char) := ["a/", "b/"].map String.toList

theorem sidePath?_append {side path : List Char} (known : side ∈ sides) (plain : IsPlain path) :
    sidePath? side (side ++ path) = some path := by
  have sidesPlain : ∀ side ∈ sides, '\t' ∉ side ∧ side ≠ [] ∧ IsTrimmed side := by decide
  obtain ⟨sideNoTab, filled, trimmedSide⟩ := sidesPlain side known
  have noTab : ∀ c ∈ side ++ path, (c != '\t') = true := by
    intro c member
    rw [bne_iff_ne]
    rintro rfl
    rcases List.mem_append.mp member with inSide | inside
    · exact sideNoTab inSide
    · exact plain.noTab inside
  have trimmed : IsTrimmed (side ++ path) := by
    refine ⟨?_, trimmedSide.endsPlain.append plain.endsPlain⟩
    rw [List.head?_append_of_ne_nil side filled]
    exact trimmedSide.startsPlain
  have real : (side ++ path = "/dev/null".toList || side ++ path = []) = false := by
    simp only [sides, List.map_cons, List.map_nil, List.mem_cons, List.not_mem_nil,
      or_false] at known
    rcases known with rfl | rfl <;> simp
  rw [sidePath?, List.takeWhile_eq_self_iff.mpr noTab, trim_of_isTrimmed trimmed]
  simp only [real, Bool.false_eq_true, if_false, after?_append, Option.getD_some]

theorem ofLine?_git {rest path : List Char} (ends : EndsPlain rest)
    (named : gitHeaderPath? rest = some path) (next : Option (List Char)) :
    Header.ofLine? ("diff --git ".toList ++ rest) next = some (.file path) := by
  rw [Header.ofLine?, after?_append]
  simp only [trimEnd_of_endsPlain ends, named, Header.ofPath?]

theorem ofLine?_new {rest path : List Char} (named : sidePath? "b/".toList rest = some path)
    (next : Option (List Char)) :
    Header.ofLine? ("+++ ".toList ++ rest) next = some (.file path) := by
  have noGit : after? "diff --git ".toList ("+++ ".toList ++ rest) = none := by simp [after?]
  rw [Header.ofLine?, noGit]
  simp only [after?_append, named, Header.ofPath?]

theorem ofLine?_old (rest : List Char) {next : Option (List Char)}
    (kept : next.any (startsWith "+++ /dev/null".toList) = false) :
    Header.ofLine? ("--- ".toList ++ rest) next = some .other := by
  have noGit : after? "diff --git ".toList ("--- ".toList ++ rest) = none := by simp [after?]
  have noNew : after? "+++ ".toList ("--- ".toList ++ rest) = none := by simp [after?]
  rw [Header.ofLine?, noGit]
  simp only [noNew, after?_append, kept, Bool.false_eq_true, if_false]

theorem forall_pathMarks_iff (line : List Char) :
    (∀ mark ∈ pathMarks, ¬ mark <+: line) ↔ after? "diff --git ".toList line = none ∧
      after? "+++ ".toList line = none ∧ after? "--- ".toList line = none := by
  simp only [after?_eq_none_iff, pathMarks, List.map_cons, List.map_nil, List.forall_mem_cons,
    List.not_mem_nil, false_implies, implies_true, and_true]

theorem ofLine?_eq_none_iff (line : List Char) (next : Option (List Char)) :
    Header.ofLine? line next = none ↔ ∀ mark ∈ pathMarks ++ metadataMarks, ¬ mark <+: line := by
  have metadata : metadataMarks.any (startsWith · line) = true ↔
      ¬ ∀ mark ∈ metadataMarks, ¬ mark <+: line := by
    simp only [List.any_eq_true, startsWith_iff, not_forall, not_not, exists_prop]
  rw [List.forall_mem_append, forall_pathMarks_iff, Header.ofLine?]
  cases after? "diff --git ".toList line with
  | some rest => simp only [reduceCtorEq, false_and]
  | none =>
      cases after? "+++ ".toList line with
      | some rest => simp only [reduceCtorEq, false_and, and_false]
      | none =>
          cases after? "--- ".toList line with
          | some rest =>
              simp only [reduceCtorEq, false_and, and_false]
              split <;> simp only [reduceCtorEq]
          | none =>
              simp only [true_and]
              split
              · rename_i marked
                exact iff_of_false (by simp) (metadata.mp marked)
              · rename_i unmarked
                exact iff_of_true rfl (not_not.mp (mt metadata.mpr unmarked))

theorem path?_ofLine_eq_none {line : List Char} (unmarked : ∀ mark ∈ pathMarks, ¬ mark <+: line)
    (next : Option (List Char)) : (Role.ofLine line next).path? = none := by
  obtain ⟨noGit, noNew, noOld⟩ := (forall_pathMarks_iff line).mp unmarked
  rw [Role.ofLine, Header.ofLine?, noGit]
  simp only [noNew, noOld]
  cases metadataMarks.any (startsWith · line) <;> rfl

theorem paths_ofLines_eq_nil {lines : List (List Char)}
    (unmarked : ∀ line ∈ lines, ∀ mark ∈ pathMarks, ¬ mark <+: line) :
    (Role.ofLines lines).filterMap Role.path? = [] := by
  induction lines with
  | nil => rfl
  | cons line lines ih =>
      rw [List.forall_mem_cons] at unmarked
      rw [Role.ofLines, List.filterMap_cons_none (path?_ofLine_eq_none unmarked.1 _)]
      exact ih unmarked.2

theorem ofLine_congr (line : List Char) {next other : Option (List Char)}
    (same : next.any (startsWith "+++ /dev/null".toList) =
      other.any (startsWith "+++ /dev/null".toList)) :
    Role.ofLine line next = Role.ofLine line other := by
  simp only [Role.ofLine, Header.ofLine?, same]

theorem Role.ofLines_append (before : List (List Char)) {rest : List (List Char)}
    (kept : rest.head?.any (startsWith "+++ /dev/null".toList) = false) :
    ofLines (before ++ rest) = ofLines before ++ ofLines rest := by
  induction before with
  | nil => rfl
  | cons line before ih =>
      rw [List.cons_append, ofLines, ofLines, List.cons_append, ih]
      cases before with
      | nil =>
          have same : ofLine line rest.head? = ofLine line none := ofLine_congr line kept
          rw [List.nil_append, same]
          rfl
      | cons other before => rfl

end ReleaseDrift.Diff
