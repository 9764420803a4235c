import ReleaseDrift.Declaration.Line

/-!
Counters of one scan. They explain what was read and decide nothing.
-/

namespace ReleaseDrift

open Declaration (Skip)

structure SkipCounts where
  comment : Nat := 0
  declaration : Nat := 0
  implementation : Nat := 0
  unexported : Nat := 0
  braceOnly : Nat := 0
  noMatch : Nat := 0
  deriving Repr, DecidableEq

namespace SkipCounts

def record (counts : SkipCounts) : Skip → SkipCounts
  | .comment => { counts with comment := counts.comment + 1 }
  | .declaration => { counts with declaration := counts.declaration + 1 }
  | .implementation => { counts with implementation := counts.implementation + 1 }
  | .unexported => { counts with unexported := counts.unexported + 1 }
  | .braceOnly => { counts with braceOnly := counts.braceOnly + 1 }
  | .noMatch => { counts with noMatch := counts.noMatch + 1 }

def count (counts : SkipCounts) : Skip → Nat
  | .comment => counts.comment
  | .declaration => counts.declaration
  | .implementation => counts.implementation
  | .unexported => counts.unexported
  | .braceOnly => counts.braceOnly
  | .noMatch => counts.noMatch

def total (counts : SkipCounts) : Nat :=
  counts.comment + counts.declaration + counts.implementation + counts.unexported +
    counts.braceOnly + counts.noMatch

end SkipCounts

structure ScanStatistics where
  filesTotal : Nat := 0
  filesWithChanges : Nat := 0
  filesWithoutChanges : Nat := 0
  unchangedExamples : List String := []
  linesAdded : Nat := 0
  linesRemoved : Nat := 0
  fieldsAdded : Nat := 0
  fieldsRemoved : Nat := 0
  methodsAdded : Nat := 0
  methodsRemoved : Nat := 0
  embeddedAdded : Nat := 0
  embeddedRemoved : Nat := 0
  skipped : SkipCounts := {}
  deriving Repr, DecidableEq

namespace ScanStatistics

def maxExamples : Nat := 5

def recordLine (stats : ScanStatistics) : Direction → ScanStatistics
  | .added => { stats with linesAdded := stats.linesAdded + 1 }
  | .removed => { stats with linesRemoved := stats.linesRemoved + 1 }

def recordChange (stats : ScanStatistics) (change : Change) : ScanStatistics :=
  match change, change.direction with
  | .field _, .added => { stats with fieldsAdded := stats.fieldsAdded + 1 }
  | .field _, .removed => { stats with fieldsRemoved := stats.fieldsRemoved + 1 }
  | .method _, .added => { stats with methodsAdded := stats.methodsAdded + 1 }
  | .method _, .removed => { stats with methodsRemoved := stats.methodsRemoved + 1 }
  | .embedded _, .added => { stats with embeddedAdded := stats.embeddedAdded + 1 }
  | .embedded _, .removed => { stats with embeddedRemoved := stats.embeddedRemoved + 1 }

def recordSkip (stats : ScanStatistics) (skip : Skip) : ScanStatistics :=
  { stats with skipped := stats.skipped.record skip }

def recordUnchanged (stats : ScanStatistics) (path : String) : ScanStatistics :=
  { stats with
    filesWithoutChanges := stats.filesWithoutChanges + 1
    unchangedExamples :=
      if stats.unchangedExamples.length < maxExamples then stats.unchangedExamples ++ [path]
      else stats.unchangedExamples }

def totalChanges (stats : ScanStatistics) : Nat :=
  stats.fieldsAdded + stats.fieldsRemoved + stats.methodsAdded + stats.methodsRemoved +
    stats.embeddedAdded + stats.embeddedRemoved

def linesProcessed (stats : ScanStatistics) : Nat := stats.linesAdded + stats.linesRemoved

/-- Most files gave nothing, which says more about the scan than about the files. -/
def looksSuspicious (stats : ScanStatistics) : Bool :=
  stats.filesTotal ≥ 4 && stats.filesWithChanges * 4 < stats.filesTotal

end ScanStatistics

end ReleaseDrift
