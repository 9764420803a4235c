import ReleaseDrift.Comparison.Basic
import ReleaseDrift.Proofs.Diff.HeaderLine
import ReleaseDrift.Proofs.Text.Lines

/-!
The lines of a diff that is put together from changed files. Each file keeps its own lines,
whatever its patch holds and whether or not the patch ends with a line feed.
-/

namespace ReleaseDrift

open Text
open Diff (IsPlain Role pathMarks rolesOf)

namespace ChangedFile

def hunkLines (file : ChangedFile) : List (List Char) :=
  (file.patch.map fun patch => lines patch.toList).getD []

def patchRoles (file : ChangedFile) : List Role := rolesOf file.patchLines

def roles (file : ChangedFile) : List Role :=
  .names file.path :: .header :: .names file.path :: file.patchRoles

/-- The files that lines of the patch name as if they were headers. -/
def phantoms (file : ChangedFile) : List String := file.patchRoles.filterMap Role.path?

theorem paths_roles (file : ChangedFile) :
    file.roles.filterMap Role.path? = file.path :: file.path :: file.phantoms := rfl

theorem lines_patchLines_append (file : ChangedFile) (rest : List Char) :
    lines (file.patchLines ++ rest) = lines file.patchLines ++ lines rest := by
  have ended (s : List Char) : lines (s ++ ['\n'] ++ rest) = lines (s ++ ['\n']) ++ lines rest := by
    rw [List.append_assoc, List.singleton_append, lines_append_newline]
  unfold patchLines
  cases file.patch with
  | none => rfl
  | some patch =>
      dsimp only
      split
      · rename_i fed
        obtain ⟨s, whole⟩ := List.getLast?_eq_some_iff.mp fed
        rw [whole, ended]
      · exact ended patch.toList

/-- The line feed that ends a patch in a diff can make an empty line or take a carriage return
    away, and changes nothing else. -/
theorem lines_patchLines_cases (file : ChangedFile) :
    lines file.patchLines = file.hunkLines ∨
      (lines file.patchLines = [[]] ∧ file.hunkLines = []) ∨
      ∃ front last, file.hunkLines = front ++ [last] ∧
        lines file.patchLines = front ++ [dropReturn last] := by
  unfold patchLines hunkLines
  cases file.patch with
  | none => exact Or.inl rfl
  | some patch =>
      dsimp only [Option.map_some, Option.getD_some]
      split
      · exact Or.inl rfl
      · rename_i unended
        by_cases filled : patch.toList = []
        · rw [filled]
          exact Or.inr (Or.inl ⟨rfl, rfl⟩)
        · obtain ⟨front, last, split, _, extended⟩ := lines_append_feed filled unended
          exact Or.inr (Or.inr ⟨front, last, split, extended⟩)

theorem filterMap_patchLines (file : ChangedFile) {Reading : Type}
    {read : List Char → Option Reading} (empty : read [] = none)
    (ending : ∀ line, read (dropReturn line) = read line) :
    (lines file.patchLines).filterMap read = file.hunkLines.filterMap read := by
  rcases file.lines_patchLines_cases with same | ⟨single, none⟩ | ⟨front, last, given, extended⟩
  · rw [same]
  · rw [single, none, List.filterMap_cons_none empty]
  · rw [given, extended, List.filterMap_append, List.filterMap_append, List.filterMap_cons,
      List.filterMap_cons, ending]

theorem countP_patchLines (file : ChangedFile) {test : List Char → Bool}
    (empty : test [] = false) (ending : ∀ line, test (dropReturn line) = test line) :
    (lines file.patchLines).countP test = file.hunkLines.countP test := by
  rcases file.lines_patchLines_cases with same | ⟨single, none⟩ | ⟨front, last, given, extended⟩
  · rw [same]
  · rw [single, none, List.countP_cons_of_neg (by simp [empty])]
  · rw [given, extended, List.countP_append, List.countP_append, List.countP_singleton,
      List.countP_singleton, ending]

theorem exists_patchLines_iff (file : ChangedFile) {mark : List Char} (filled : mark ≠ [])
    (noReturn : mark.getLast? ≠ some '\r') :
    (∃ line ∈ lines file.patchLines, mark <+: line) ↔ ∃ line ∈ file.hunkLines, mark <+: line := by
  have empty : startsWith mark [] = false := by
    rw [Bool.eq_false_iff, Ne, startsWith_iff, List.prefix_nil]
    exact filled
  have same := file.countP_patchLines empty (startsWith_dropReturn noReturn)
  have found (list : List (List Char)) : (∃ line ∈ list, mark <+: line) ↔
      0 < list.countP fun line => startsWith mark line := by
    simp only [List.countP_pos_iff, startsWith_iff]
  rw [found, found, same]

/-- No line of the patch starts as the headers do that can name a file. -/
def HasNoHeader (file : ChangedFile) : Prop :=
  ∀ line ∈ file.hunkLines, ∀ mark ∈ pathMarks, ¬ mark <+: line

instance (file : ChangedFile) : Decidable file.HasNoHeader :=
  inferInstanceAs (Decidable (∀ line ∈ file.hunkLines, ∀ mark ∈ pathMarks, ¬ mark <+: line))

theorem HasNoHeader.patchLines {file : ChangedFile} (noHeader : file.HasNoHeader) :
    ∀ line ∈ lines file.patchLines, ∀ mark ∈ pathMarks, ¬ mark <+: line := by
  have filled : ∀ mark ∈ pathMarks, mark ≠ [] ∧ mark.getLast? ≠ some '\r' := by decide
  intro line inside mark known start
  obtain ⟨markFilled, noReturn⟩ := filled mark known
  obtain ⟨other, given, same⟩ :=
    (file.exists_patchLines_iff markFilled noReturn).mp ⟨line, inside, start⟩
  exact noHeader other given mark known same

theorem HasNoHeader.phantoms {file : ChangedFile} (noHeader : file.HasNoHeader) :
    file.phantoms = [] :=
  Diff.paths_ofLines_eq_nil noHeader.patchLines

theorem lines_header (lead : List Char) {path : List Char} (noFeed : '\n' ∉ lead)
    (ends : EndsPlain lead) (plain : IsPlain path) (more : List Char) :
    lines (lead ++ path ++ '\n' :: more) = (lead ++ path) :: lines more := by
  have wholeNoFeed : '\n' ∉ lead ++ path := by
    rw [List.mem_append]
    exact fun member => member.elim noFeed plain.noFeed
  rw [lines_append_newline, lines_single wholeNoFeed (ends.append plain.endsPlain),
    List.singleton_append]

theorem unifiedDiff_eq (file : ChangedFile) :
    file.unifiedDiff =
      "diff --git a/".toList ++ file.path.toList ++ " b/".toList ++ file.path.toList ++
        '\n' :: "--- a/".toList ++ file.path.toList ++
        '\n' :: "+++ b/".toList ++ file.path.toList ++ '\n' :: file.patchLines := rfl

def headerLines (file : ChangedFile) : List (List Char) :=
  let path := file.path.toList
  ["diff --git ".toList ++ ("a/".toList ++ path ++ " b/".toList ++ path),
    "--- ".toList ++ ("a/".toList ++ path),
    "+++ ".toList ++ ("b/".toList ++ path)]

theorem lines_unifiedDiff_append {file : ChangedFile} (plain : IsPlain file.path.toList)
    (rest : List Char) :
    lines (file.unifiedDiff ++ rest) =
      file.headerLines ++ (lines file.patchLines ++ lines rest) := by
  have start : EndsPlain ("diff --git a/".toList ++ file.path.toList) :=
    EndsPlain.append (by decide) plain.endsPlain
  have startNoFeed : '\n' ∉ "diff --git a/".toList ++ file.path.toList ++ " b/".toList := by
    simpa using plain.noFeed
  have git := lines_header _ startNoFeed (start.append (by decide)) plain
  have old := lines_header "--- a/".toList (by decide) (by decide) plain
  have new := lines_header "+++ b/".toList (by decide) (by decide) plain
  have whole : file.unifiedDiff ++ rest =
      "diff --git a/".toList ++ file.path.toList ++ " b/".toList ++ file.path.toList ++ '\n' ::
        ("--- a/".toList ++ file.path.toList ++ '\n' ::
          ("+++ b/".toList ++ file.path.toList ++ '\n' :: (file.patchLines ++ rest))) := by
    rw [unifiedDiff_eq]
    simp only [List.append_assoc, List.cons_append]
  -- The marks that the scan takes off end before the side of the path.
  have gitMark : "diff --git a/".toList = "diff --git ".toList ++ "a/".toList := rfl
  have oldMark : "--- a/".toList = "--- ".toList ++ "a/".toList := rfl
  have newMark : "+++ b/".toList = "+++ ".toList ++ "b/".toList := rfl
  rw [whole, git, old, new, lines_patchLines_append, gitMark, oldMark, newMark]
  simp only [headerLines, List.append_assoc, List.cons_append, List.nil_append]

end ChangedFile

theorem unifiedDiff_cons (file : ChangedFile) (files : List ChangedFile) :
    unifiedDiff (file :: files) = file.unifiedDiff ++ unifiedDiff files := by
  rw [unifiedDiff, List.flatMap_cons, ← unifiedDiff]

theorem head_lines_unifiedDiff {files : List ChangedFile}
    (plain : ∀ file ∈ files, IsPlain file.path.toList) :
    (lines (unifiedDiff files)).head?.any (startsWith "+++ /dev/null".toList) = false := by
  cases files with
  | nil => rfl
  | cons file files =>
      rw [unifiedDiff_cons, ChangedFile.lines_unifiedDiff_append (plain file List.mem_cons_self)]
      simp [ChangedFile.headerLines, startsWith, after?]

theorem roles_headerLines {file : ChangedFile} (plain : IsPlain file.path.toList)
    (rest : List (List Char)) :
    Role.ofLines (file.headerLines ++ rest) =
      .names file.path :: .header :: .names file.path :: Role.ofLines rest := by
  have bothSides :
      EndsPlain ("a/".toList ++ file.path.toList ++ " b/".toList ++ file.path.toList) :=
    ((EndsPlain.append (by decide) plain.endsPlain).append (by decide)).append plain.endsPlain
  have git := Diff.ofLine?_git bothSides (Diff.gitHeaderPath?_bothSides file.path.toList)
  have new := Diff.ofLine?_new (Diff.sidePath?_append (by decide) plain)
  have kept : (some ("+++ ".toList ++ ("b/".toList ++ file.path.toList))).any
      (startsWith "+++ /dev/null".toList) = false := by
    simp [startsWith, after?]
  have old := Diff.ofLine?_old ("a/".toList ++ file.path.toList) kept
  simp only [ChangedFile.headerLines, List.cons_append, List.nil_append, Role.ofLines, Role.ofLine,
    List.head?_cons, git, old, new, String.ofList_toList]

theorem roles_unifiedDiff {files : List ChangedFile}
    (plain : ∀ file ∈ files, IsPlain file.path.toList) :
    rolesOf (unifiedDiff files) = files.flatMap ChangedFile.roles := by
  induction files with
  | nil => rfl
  | cons file files ih =>
      have plainFile := plain file List.mem_cons_self
      have plainFiles : ∀ other ∈ files, IsPlain other.path.toList :=
        fun other member => plain other (List.mem_cons_of_mem _ member)
      have rest := ih plainFiles
      rw [rolesOf] at rest
      rw [rolesOf, unifiedDiff_cons, ChangedFile.lines_unifiedDiff_append plainFile,
        roles_headerLines plainFile, Role.ofLines_append _ (head_lines_unifiedDiff plainFiles),
        rest, List.flatMap_cons]
      rfl

end ReleaseDrift
