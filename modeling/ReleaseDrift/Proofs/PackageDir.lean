import Mathlib.Data.List.DropRight
import ReleaseDrift.Proofs.SortedSet
import ReleaseDrift.Proofs.Text.Cut
import ReleaseDrift.Proofs.Text.WordChar
import ReleaseDrift.Proofs.Verdict

/-!
Packages by their directories. However a directory is written, it names the same package, and a
path belongs to the directory before its last slash.
-/

namespace ReleaseDrift

open Text

theorem rdropWhile_beq_eq_iff (mark : Char) (s t : List Char) :
    s.rdropWhile (· == mark) = t ↔
      (∃ n, s = t ++ List.replicate n mark) ∧ t.getLast? ≠ some mark := by
  constructor
  · rintro rfl
    refine ⟨⟨(s.rtakeWhile (· == mark)).length, ?_⟩, ?_⟩
    · have run : s.rtakeWhile (· == mark) =
          List.replicate (s.rtakeWhile (· == mark)).length mark :=
        List.eq_replicate_of_mem fun _ member =>
          eq_of_beq (List.mem_rtakeWhile_imp (p := (· == mark)) member)
      rw [← run, List.rdropWhile_append_rtakeWhile]
    · intro last
      obtain ⟨front, written⟩ := List.getLast?_eq_some_iff.mp last
      have stopped := List.rdropWhile_last_not (· == mark) s (by simp [written])
      simp [written] at stopped
  · rintro ⟨⟨n, rfl⟩, notLast⟩
    have run : ∀ c ∈ List.replicate n mark, (c == mark) = true := fun c member =>
      beq_iff_eq.mpr (List.eq_of_mem_replicate member)
    have stop : ∀ c ∈ t.reverse.head?, (c == mark) = false := by
      rw [List.head?_reverse]
      rintro c last
      rw [beq_eq_false_iff_ne]
      rintro rfl
      exact notLast last
    rw [List.rdropWhile, List.reverse_append, List.reverse_replicate,
      dropWhile_append_stop run stop, List.reverse_reverse]

namespace Usage

theorem dropDots_eq_iff (s t : List Char) :
    dropDots s = t ↔
      (∃ n, s = (List.replicate n ['.', '/']).flatten ++ t) ∧ ¬ ['.', '/'] <+: t := by
  fun_induction dropDots s with
  | case1 rest ih =>
      rw [ih, and_congr_left_iff]
      intro noDots
      constructor
      · rintro ⟨n, rfl⟩
        exact ⟨n + 1, rfl⟩
      · rintro ⟨n, same⟩
        cases n with
        | zero => exact absurd ⟨rest, same⟩ noDots
        | succ n => exact ⟨n, by simpa [List.replicate_succ] using same⟩
  | case2 s noDots =>
      constructor
      · rintro rfl
        refine ⟨⟨0, rfl⟩, ?_⟩
        rintro ⟨rest, same⟩
        exact noDots rest same.symm
      · rintro ⟨⟨n, same⟩, _⟩
        cases n with
        | zero => exact same
        | succ n => exact absurd same (noDots _)

/-- A directory as it is written: the bare one after some `./` and before some slashes. -/
def IsBareOf (bare written : String) : Prop :=
  ∃ dots slashes, written.toList = (List.replicate dots ['.', '/']).flatten ++
      (bare.toList ++ List.replicate slashes '/') ∧
    ¬ ['.', '/'] <+: bare.toList ++ List.replicate slashes '/' ∧ bare.toList.getLast? ≠ some '/'

theorem normalizeDir_eq_iff (written bare : String) :
    normalizeDir written = bare ↔ IsBareOf bare written := by
  have bared : normalizeDir written = bare ↔
      (dropDots written.toList).rdropWhile (· == '/') = bare.toList := by
    rw [← String.toList_inj, normalizeDir, String.toList_ofList, List.rdropWhile]
  rw [bared, rdropWhile_beq_eq_iff, IsBareOf]
  constructor
  · rintro ⟨⟨slashes, left⟩, noSlash⟩
    obtain ⟨⟨dots, whole⟩, noDots⟩ := (dropDots_eq_iff _ _).mp left
    exact ⟨dots, slashes, whole, noDots, noSlash⟩
  · rintro ⟨dots, slashes, whole, noDots, noSlash⟩
    exact ⟨⟨slashes, (dropDots_eq_iff _ _).mpr ⟨⟨dots, whole⟩, noDots⟩⟩, noSlash⟩

theorem normalizeDir_idempotent (dir : String) :
    normalizeDir (normalizeDir dir) = normalizeDir dir := by
  obtain ⟨dots, slashes, _, noDots, noSlash⟩ := (normalizeDir_eq_iff dir _).mp rfl
  rw [normalizeDir_eq_iff]
  refine ⟨0, 0, by simp, ?_, noSlash⟩
  -- What starts the bare directory also starts it with its slashes.
  intro start
  rw [List.replicate_zero, List.append_nil] at start
  exact noDots (start.trans (List.prefix_append _ _))

example : normalizeDir "././a//" = "a" ∧ normalizeDir ".//" = "" := by decide +kernel

end Usage

namespace ModelName

/-- The part of a path before its last slash; a path without any slash is at the root. -/
def IsDirOf (dir path : String) : Prop :=
  (∃ name : String, path = dir ++ "/" ++ name ∧ '/' ∉ name.toList) ∨
    ('/' ∉ path.toList ∧ dir = "")

theorem parentDir_of_isDirOf {dir path : String} (isDir : IsDirOf dir path) :
    parentDir path = dir := by
  rcases isDir with ⟨name, rfl, plain⟩ | ⟨noSlash, rfl⟩
  · have parts : (dir ++ "/" ++ name).toList = dir.toList ++ '/' :: name.toList := by simp
    rw [parentDir, parts, cutLast?_append plain, Option.map_some, Option.getD_some,
      String.ofList_toList]
  · rw [parentDir, cutLast?_eq_none_of_notMem List.mem_cons_self noSlash]
    rfl

theorem exists_isDirOf (path : String) : ∃ dir, IsDirOf dir path := by
  by_cases slash : '/' ∈ path.toList
  · obtain ⟨back, front, written, plain⟩ :=
      List.eq_append_cons_of_mem (List.mem_reverse.mpr slash)
    refine ⟨String.ofList front.reverse,
      Or.inl ⟨String.ofList back.reverse, ?_, by simpa using plain⟩⟩
    have parts : path.toList = front.reverse ++ '/' :: back.reverse := by
      rw [← List.reverse_reverse path.toList, written]
      simp
    rw [← String.toList_inj, parts]
    simp
  · exact ⟨"", Or.inr ⟨slash, rfl⟩⟩

theorem parentDir_eq_iff (path dir : String) : parentDir path = dir ↔ IsDirOf dir path := by
  constructor
  · rintro rfl
    obtain ⟨dir, isDir⟩ := exists_isDirOf path
    rw [parentDir_of_isDirOf isDir]
    exact isDir
  · exact parentDir_of_isDirOf

end ModelName

namespace Usage

theorem usesPackageOf_iff_exists (usage : Usage) (path : String) :
    usage.usesPackageOf path = true ↔ usage.packages = [] ∨
      ∃ package ∈ usage.packages, ∃ dir, IsBareOf dir package ∧ ModelName.IsDirOf dir path := by
  simp only [usesPackageOf_iff, CoversPackageOf, ← normalizeDir_eq_iff,
    ← ModelName.parentDir_eq_iff, exists_eq_left', eq_comm (a := ModelName.parentDir path)]

theorem usesPackageOf_congr {usage other : Usage}
    (same : ∀ dir, (∃ package ∈ usage.packages, normalizeDir package = dir) ↔
      ∃ package ∈ other.packages, normalizeDir package = dir) (path : String) :
    usage.usesPackageOf path = other.usesPackageOf path := by
  have empty : usage.packages = [] ↔ other.packages = [] := by
    simp only [List.eq_nil_iff_forall_not_mem]
    constructor
    · intro none package listed
      obtain ⟨_, known, _⟩ := (same _).mpr ⟨package, listed, rfl⟩
      exact none _ known
    · intro none package listed
      obtain ⟨_, known, _⟩ := (same _).mp ⟨package, listed, rfl⟩
      exact none _ known
  rw [Bool.eq_iff_iff, usesPackageOf_iff, usesPackageOf_iff, CoversPackageOf, CoversPackageOf,
    empty, same]

theorem mem_withPackages (usage : Usage) (packages : List String) (package : String) :
    package ∈ (usage.withPackages packages).packages ↔
      (∃ written ∈ packages, normalizeDir written = package) ∨ package ∈ usage.packages := by
  rw [withPackages, SortedSet.mem_insertAll, List.mem_map]

theorem usesPackageOf_withPackages {usage raw : Usage} {packages : List String}
    (same : ∀ package, package ∈ raw.packages ↔ package ∈ packages ∨ package ∈ usage.packages)
    (path : String) : (usage.withPackages packages).usesPackageOf path = raw.usesPackageOf path := by
  refine usesPackageOf_congr (fun dir => ?_) path
  simp only [mem_withPackages, same]
  constructor
  · rintro ⟨package, ⟨written, listed, rfl⟩ | listed, rfl⟩
    · exact ⟨written, Or.inl listed, (normalizeDir_idempotent written).symm⟩
    · exact ⟨package, Or.inr listed, rfl⟩
  · rintro ⟨package, listed | listed, rfl⟩
    · exact ⟨normalizeDir package, Or.inl ⟨package, listed, rfl⟩, normalizeDir_idempotent package⟩
    · exact ⟨package, Or.inr listed, rfl⟩

end Usage

end ReleaseDrift
