import ReleaseDrift.Proofs.Diff.Assembly
import ReleaseDrift.Proofs.Diff.History

/-!
The headers that are written for a file, read back. Each of them names the file, whatever its path
holds, and a scan that has read them stands in that file and has listed no other.
-/

namespace ReleaseDrift

open Text
open Diff (IsPlain Scan bothSides gitHeaderPath? sidePath?)

theorem Diff.Scan.enterFile_enterFile (scan : Scan) (path : String) :
    (scan.enterFile path).enterFile path = scan.enterFile path := by
  have listed : (scan.enterFile path).models.any (·.path == path) = true := by
    rw [enterFile]
    split
    · assumption
    · simp [ModelChange.ofPath]
  rw [enterFile, if_pos listed]
  rfl

namespace ChangedFile

theorem run_headerLines {file : ChangedFile} (plain : IsPlain file.path.toList) (scan : Scan)
    (number : Nat) (rest : List (List Char)) :
    scan.run number (file.headerLines ++ rest) =
      (scan.enterFile file.path).run (number + 3) rest := by
  have entered : ((scan.advance number (.names file.path)).advance (number + 1) .header).advance
      (number + 2) (.names file.path) = scan.enterFile file.path :=
    scan.enterFile_enterFile file.path
  rw [Scan.run_eq_foldl, roles_headerLines plain, List.zipIdx_cons, List.zipIdx_cons,
    List.zipIdx_cons, List.foldl_cons, List.foldl_cons, List.foldl_cons, entered,
    ← Scan.run_eq_foldl]

/-- What the three headers of a file say. -/
structure IsNamedByHeaders (file : ChangedFile) : Prop where
  git : gitHeaderPath? (bothSides file.path.toList) = some file.path.toList
  old : sidePath? "a/".toList ("a/".toList ++ file.path.toList) = some file.path.toList
  new : sidePath? "b/".toList ("b/".toList ++ file.path.toList) = some file.path.toList
  middle : ∀ path : List Char,
    (byteLength (bothSides file.path.toList) % 2 = 1 ∧
        cutAtByte? (byteLength (bothSides file.path.toList) / 2) (bothSides file.path.toList) =
          some ("a/".toList ++ path, ' ' :: ("b/".toList ++ path))) ↔
      path = file.path.toList
  written : ∀ rest, lines (file.unifiedDiff ++ rest) =
    file.headerLines ++ (lines file.patchLines ++ lines rest)
  /-- A scan leaves the headers in the file, which is listed if it was not; nothing else changes. -/
  entered : ∀ (scan : Scan) (number : Nat) (rest : List (List Char)),
    scan.run number (file.headerLines ++ rest) =
      (scan.enterFile file.path).run (number + 3) rest
  alone : Scan.run {} 1 file.headerLines =
    { current := some file.path, models := [ModelChange.ofPath file.path] }

theorem headers_nameFile {file : ChangedFile} (plain : IsPlain file.path.toList) :
    file.IsNamedByHeaders where
  git := Diff.gitHeaderPath?_bothSides file.path.toList
  old := Diff.sidePath?_append (by decide) plain
  new := Diff.sidePath?_append (by decide) plain
  middle := by
    intro path
    rw [Diff.cutAtByte?_middle_iff, Diff.bothSides_inj, eq_comm]
  written := lines_unifiedDiff_append plain
  entered := run_headerLines plain
  alone := by
    have ended := run_headerLines plain {} 1 []
    rw [List.append_nil] at ended
    exact ended

theorem headers_nameFile_of_repeated_marks :
    let file : ChangedFile :=
      { path := "a/ß b/a b/é a/b/ü.go", status := .modified, additions := 0, deletions := 0,
        patch := none }
    IsPlain file.path.toList ∧
      Scan.run {} 1 file.headerLines =
        { current := some "a/ß b/a b/é a/b/ü.go",
          models := [ModelChange.ofPath "a/ß b/a b/é a/b/ü.go"] } := by
  intro file
  have plain : IsPlain file.path.toList := by decide
  exact ⟨plain, (headers_nameFile plain).alone⟩

end ChangedFile

end ReleaseDrift
