import ReleaseDrift.Text.Basic

/-!
The files that changed between two releases, and the unified diff of those that hold models.
-/

namespace ReleaseDrift

inductive FileStatus where
  | added
  | removed
  | modified
  | renamed
  | copied
  | unchanged
  | changed
  deriving Repr, DecidableEq

namespace FileStatus

def name : FileStatus → String
  | added => "added"
  | removed => "removed"
  | modified => "modified"
  | renamed => "renamed"
  | copied => "copied"
  | unchanged => "unchanged"
  | changed => "changed"

def all : List FileStatus := [added, removed, modified, renamed, copied, unchanged, changed]

def ofName (word : String) : FileStatus := (all.find? (·.name == word)).getD changed

end FileStatus

structure ChangedFile where
  path : String
  status : FileStatus
  additions : Nat
  deletions : Nat
  /-- Missing for binary files, very large diffs and files that were removed as a whole. -/
  patch : Option String
  deriving Repr, DecidableEq

namespace ChangedFile

def hasPatch (file : ChangedFile) : Bool :=
  file.patch.any fun patch => Text.trim patch.toList != []

def isWholeRemoval (file : ChangedFile) : Bool := file.status == .removed && !file.hasPatch

def isUnder (file : ChangedFile) (dir : String) : Bool :=
  Text.startsWith dir.toList file.path.toList

def patchLines (file : ChangedFile) : List Char :=
  match file.patch with
  | none => []
  | some patch =>
      if patch.toList.getLast? = some '\n' then patch.toList else patch.toList ++ ['\n']

def unifiedDiff (file : ChangedFile) : List Char :=
  let path := file.path.toList
  "diff --git a/".toList ++ path ++ " b/".toList ++ path ++ '\n' ::
    "--- a/".toList ++ path ++ '\n' :: "+++ b/".toList ++ path ++ '\n' :: file.patchLines

end ChangedFile

structure Comparison where
  files : List ChangedFile
  commitCount : Nat
  compareUrl : Option String
  deriving Repr, DecidableEq

/-- The files under the model directory that have a patch or were removed as a whole. -/
def modelFiles (files : List ChangedFile) (modelDir : String) : List ChangedFile :=
  files.filter fun file => file.isUnder modelDir && (file.hasPatch || file.isWholeRemoval)

def removedModelFiles (files : List ChangedFile) (modelDir : String) : List ChangedFile :=
  files.filter fun file => file.isUnder modelDir && file.status == .removed

def unifiedDiff (files : List ChangedFile) : List Char := files.flatMap (·.unifiedDiff)

end ReleaseDrift
