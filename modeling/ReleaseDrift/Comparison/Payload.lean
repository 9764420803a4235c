import ReleaseDrift.Comparison.Basic
import ReleaseDrift.Json.Fields

/-!
Comparisons as JSON. Reading accepts a second name for some fields, and records written as
arrays; writing uses the first names and leaves out what is missing.
-/

namespace ReleaseDrift

open Json (Written)

/-- A status is a word, or an object with the word as its only member and nothing in it. -/
def FileStatus.ofWritten? : Written → Option FileStatus
  | .str (some word) => some (ofName word)
  | .obj [(some word, .null)] => some (ofName word)
  | _ => none

def orDefault? {α : Type} (default : α) (read : Written → Option α) : Option Written → Option α
  | none => some default
  | some value => read value

def ChangedFile.ofWritten? (written : Written) : Option ChangedFile :=
  match written.fields?
      [["path", "filename"], ["status"], ["additions"], ["deletions"], ["patch"]] with
  | some [some path, some status, additions, deletions, patch] => do
      let path ← path.text?
      let status ← FileStatus.ofWritten? status
      let additions ← orDefault? 0 Written.count? additions
      let deletions ← orDefault? 0 Written.count? deletions
      let patch ← orDefault? none Written.optionalText? patch
      return { path, status, additions, deletions, patch }
  | _ => none

def ChangedFile.listOfWritten? : Written → Option (List ChangedFile)
  | .arr items => items.mapM ofWritten?
  | _ => none

def Comparison.ofWritten? (written : Written) : Option Comparison :=
  match written.fields?
      [["files"], ["commit_count", "total_commits"], ["compare_url", "html_url"]] with
  | some [files, commitCount, compareUrl] => do
      let files ← orDefault? [] ChangedFile.listOfWritten? files
      let commitCount ← orDefault? 0 Written.count? commitCount
      let compareUrl ← orDefault? none Written.optionalText? compareUrl
      return { files, commitCount, compareUrl }
  | _ => none

def Json.optional (name : String) : Option Json → List (String × Json)
  | some value => [(name, value)]
  | none => []

def ChangedFile.toJson (file : ChangedFile) : Json :=
  .obj ([("path", .str file.path), ("status", .str file.status.name),
    ("additions", .ofNat file.additions), ("deletions", .ofNat file.deletions)] ++
    Json.optional "patch" (file.patch.map .str))

def Comparison.toJson (comparison : Comparison) : Json :=
  .obj ([("files", .arr (comparison.files.map (·.toJson))),
    ("commit_count", .ofNat comparison.commitCount)] ++
    Json.optional "compare_url" (comparison.compareUrl.map .str))

end ReleaseDrift
