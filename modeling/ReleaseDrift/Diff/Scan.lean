import ReleaseDrift.Diff.Header
import ReleaseDrift.Diff.Statistics

/-!
One pass over the lines of a unified diff. The pass knows the file that the last header named
and whether the last declaration it saw opened an interface; context lines count for both,
since a declaration usually stands outside the changed lines.
-/

namespace ReleaseDrift.Diff

open Text
open Declaration (Outcome)

def splitMarker : List Char → Option Direction × List Char
  | '+' :: rest => (some .added, rest)
  | '-' :: rest => (some .removed, rest)
  | ' ' :: rest => (none, rest)
  | line => (none, line)

def nextBlock (block : Block) (line : List Char) : Block :=
  if Declaration.opensInterface line then .interface
  else if Declaration.opensStruct line || line == ['\x7d'] then .struct
  else block

structure Scan where
  current : Option String := none
  block : Block := .struct
  /-- Every file named so far, in the order of first naming. -/
  models : List ModelChange := []
  stats : ScanStatistics := {}
  deriving Repr, DecidableEq

namespace Scan

def enterFile (scan : Scan) (path : String) : Scan :=
  { scan with
    current := some path
    models :=
      if scan.models.any (·.path == path) then scan.models
      else scan.models ++ [ModelChange.ofPath path] }

def record (scan : Scan) (path : String) (change : Change) : Scan :=
  { scan with
    models := scan.models.map fun model => if model.path = path then model.push change else model
    stats := scan.stats.recordChange change }

def readChange (scan : Scan) (path : String) (direction : Direction) (line : List Char)
    (number : Nat) : Scan :=
  let scan := { scan with stats := scan.stats.recordLine direction }
  match Declaration.read line direction scan.block number with
  | .change change => scan.record path change
  | .skipped skip => { scan with stats := scan.stats.recordSkip skip }
  | .blank => scan

def step (scan : Scan) (number : Nat) (line : List Char) (next : Option (List Char)) : Scan :=
  match Header.ofLine? line next with
  | some (.file path) => scan.enterFile (String.ofList path)
  | some .other => scan
  | none =>
      let (direction, content) := splitMarker line
      let scan := { scan with block := nextBlock scan.block (trim content) }
      match direction, scan.current with
      | some direction, some path => scan.readChange path direction (trim content) number
      | _, _ => scan

def run (scan : Scan) : (number : Nat) → List (List Char) → Scan
  | _, [] => scan
  | number, line :: rest => (scan.step number line rest.head?).run (number + 1) rest

end Scan

structure StructuralDiff where
  changes : List ModelChange
  unchangedFiles : List String
  stats : ScanStatistics
  deriving Repr, DecidableEq

def StructuralDiff.addFile (diff : StructuralDiff) (model : ModelChange) : StructuralDiff :=
  if model.hasChanges then
    { diff with
      changes := diff.changes ++ [model]
      stats := { diff.stats with filesWithChanges := diff.stats.filesWithChanges + 1 } }
  else
    { diff with
      unchangedFiles := diff.unchangedFiles ++ [model.path]
      stats := diff.stats.recordUnchanged model.path }

def Scan.finish (scan : Scan) : StructuralDiff :=
  let stats := { scan.stats with filesTotal := scan.models.length }
  scan.models.foldl StructuralDiff.addFile { changes := [], unchangedFiles := [], stats }

def scanLines (lines : List (List Char)) : StructuralDiff := (Scan.run {} 1 lines).finish

/-- Scans a diff. Malformed or truncated text gives files without changes. -/
def scanText (diff : List Char) : StructuralDiff := scanLines (lines diff)

end ReleaseDrift.Diff
