import ReleaseDrift.Impact.Item

/-!
A report: files by level, items, and a summary of both.
-/

namespace ReleaseDrift

inductive ExitCode where
  | success
  | breaking
  | badInput
  | failure
  deriving Repr, DecidableEq

def ExitCode.code : ExitCode → Nat
  | success => 0
  | breaking => 1
  | badInput => 2
  | failure => 3

/-- Changes the value of a level in a map in the order of a report. A level that has none yet
    begins with the default. -/
def Level.modify {Value : Type} (default : Value) (change : Value → Value) (level : Level) :
    List (Level × Value) → List (Level × Value)
  | [] => [(level, change default)]
  | (other, value) :: rest =>
      if level.rank < other.rank then (level, change default) :: (other, value) :: rest
      else if level = other then (level, change value) :: rest
      else (other, value) :: modify default change level rest

def countLevels (levels : List Level) : List (Level × Nat) :=
  levels.foldl (fun counts level => level.modify 0 (· + 1) counts) []

structure Summary where
  totalFiles : Nat := 0
  totalItems : Nat := 0
  files : List (Level × Nat) := []
  items : List (Level × Nat) := []
  breaking : Bool := false
  /-- The most severe level; of two that are equally severe, the one that is reported first. -/
  highest : Option Level := none
  deriving Repr, DecidableEq

structure Report where
  levels : List (Level × List ClassifiedFile) := []
  items : List ClassifiedItem := []
  summary : Summary := {}
  deriving Repr, DecidableEq

def Level.worse (left right : Level) : Level :=
  if left.severity > right.severity then left
  else if left.severity < right.severity then right
  else if left.rank ≤ right.rank then left
  else right

def Level.worst? : List Level → Option Level
  | [] => none
  | level :: rest =>
      match worst? rest with
      | some other => some (level.worse other)
      | none => some level

namespace Report

def byLevel (files : List ClassifiedFile) : List (Level × List ClassifiedFile) :=
  files.foldl (fun groups file => file.level.modify [] (· ++ [file]) groups) []

def build (files : List ClassifiedFile) (items : List ClassifiedItem) : Report :=
  let fileCounts := countLevels (files.map (·.level))
  let itemCounts := countLevels (items.map (·.level))
  let highest := Level.worst? ((fileCounts ++ itemCounts).map Prod.fst)
  { levels := byLevel files
    items
    summary :=
      { totalFiles := files.length
        totalItems := items.length
        files := fileCounts
        items := itemCounts
        breaking := highest.any (·.isBreaking)
        highest } }

def filesAt (report : Report) (level : Level) : List ClassifiedFile :=
  (report.levels.lookup level).getD []

def itemsAt (report : Report) (level : Level) : List ClassifiedItem :=
  report.items.filter (·.level == level)

def isEmpty (report : Report) : Bool :=
  report.summary.totalFiles == 0 && report.summary.totalItems == 0

def reaches (report : Report) (threshold : Level) : Bool :=
  report.summary.highest.any (·.reaches threshold)

def exitCode (report : Report) (failOn : Level) : ExitCode :=
  if report.reaches failOn then .breaking else .success

def merge (left right : Report) : Report :=
  build ((left.levels ++ right.levels).flatMap Prod.snd) (left.items ++ right.items)

end Report

end ReleaseDrift
