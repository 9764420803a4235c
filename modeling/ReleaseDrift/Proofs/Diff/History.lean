import ReleaseDrift.Proofs.Declaration.ModelChange
import ReleaseDrift.Proofs.Diff.ChangeLine
import ReleaseDrift.Proofs.Distinct

/-!
The state of a scan as a function of the lines read so far, and with it the result of a scan:
what each file changes is what its changed lines declare.
-/

namespace ReleaseDrift

open Declaration (Skip)

def SkipCounts.ofSkips (skips : List Skip) : SkipCounts :=
  { comment := skips.count .comment
    declaration := skips.count .declaration
    implementation := skips.count .implementation
    unexported := skips.count .unexported
    braceOnly := skips.count .braceOnly
    noMatch := skips.count .noMatch }

theorem SkipCounts.record_ofSkips (skips : List Skip) (skip : Skip) :
    (ofSkips skips).record skip = ofSkips (skips ++ [skip]) := by
  cases skip <;> simp [record, ofSkips]

namespace ScanStatistics

open Diff (ChangeLine)

def ofLines (lines : List ChangeLine) : ScanStatistics :=
  let changes := lines.filterMap ChangeLine.change?
  { linesAdded := lines.countP (·.direction = .added)
    linesRemoved := lines.countP (·.direction = .removed)
    fieldsAdded := (changes.filterMap (Change.field? .added)).length
    fieldsRemoved := (changes.filterMap (Change.field? .removed)).length
    methodsAdded := (changes.filterMap (Change.method? .added)).length
    methodsRemoved := (changes.filterMap (Change.method? .removed)).length
    embeddedAdded := (changes.filterMap (Change.embedded? .added)).length
    embeddedRemoved := (changes.filterMap (Change.embedded? .removed)).length
    skipped := .ofSkips (lines.filterMap ChangeLine.skip?) }

theorem recordUnchanged_take (stats : ScanStatistics) (paths : List String) (path : String) :
    recordUnchanged
        { stats with
          filesWithoutChanges := paths.length
          unchangedExamples := paths.take maxExamples } path =
      { stats with
        filesWithoutChanges := paths.length + 1
        unchangedExamples := (paths ++ [path]).take maxExamples } := by
  have examples : (if (paths.take maxExamples).length < maxExamples then
        paths.take maxExamples ++ [path] else paths.take maxExamples) =
      (paths ++ [path]).take maxExamples := by
    rw [List.length_take, List.take_append]
    split
    · rw [List.take_of_length_le (l := [path]) (by simp; omega)]
    · rw [Nat.sub_eq_zero_of_le (by omega), List.take_zero, List.append_nil]
  rw [recordUnchanged, examples]

theorem recordLine_ofLines (lines : List ChangeLine) {line : ChangeLine}
    (blank : line.outcome = .blank) :
    (ofLines lines).recordLine line.direction = ofLines (lines ++ [line]) := by
  have noChange : line.change? = none := by simp [ChangeLine.change?, blank]
  have noSkip : line.skip? = none := by simp [ChangeLine.skip?, blank]
  cases direction : line.direction <;>
    simp [recordLine, ofLines, direction, noChange, noSkip]

theorem recordSkip_ofLines (lines : List ChangeLine) {line : ChangeLine} {skip : Skip}
    (skipped : line.outcome = .skipped skip) :
    ((ofLines lines).recordLine line.direction).recordSkip skip = ofLines (lines ++ [line]) := by
  have noChange : line.change? = none := by simp [ChangeLine.change?, skipped]
  have skip? : line.skip? = some skip := by simp [ChangeLine.skip?, skipped]
  cases direction : line.direction <;>
    simp [recordSkip, recordLine, ofLines, direction, noChange, skip?, SkipCounts.record_ofSkips]

theorem recordChange_ofLines (lines : List ChangeLine) {line : ChangeLine} {change : Change}
    (declared : line.outcome = .change change) :
    ((ofLines lines).recordLine line.direction).recordChange change =
      ofLines (lines ++ [line]) := by
  have change? : line.change? = some change := by simp [ChangeLine.change?, declared]
  have noSkip : line.skip? = none := by simp [ChangeLine.skip?, declared]
  obtain ⟨name, type, direction, number⟩ | ⟨name, parameters, returns, direction, number⟩ |
    ⟨type, direction, block, number⟩ := change <;> cases direction <;>
    cases direction : line.direction <;>
    simp [recordChange, recordLine, ofLines, direction, change?, noSkip, Change.direction,
      Change.field?, Change.method?, Change.embedded?]

end ScanStatistics

namespace Diff

open Text
open Declaration (Outcome)

def fileReading (place : Place) (history : List Role) (path : String) : ModelChange :=
  .ofChanges path (changesOf place history path)

/-- The state that a scan has after some lines. -/
def Scan.ofHistory (place : Place) (history : List Role) : Scan :=
  { current := (place.after history).file
    block := (place.after history).block
    models := (namedPaths history).map (fileReading place history)
    stats := .ofLines (changeLines place history) }

def Scan.advance (scan : Scan) (number : Nat) : Role → Scan
  | .names path => scan.enterFile path
  | .header => scan
  | .text direction line =>
      let scan := { scan with block := nextBlock scan.block line }
      match direction, scan.current with
      | some direction, some path => scan.readChange path direction line number
      | _, _ => scan

theorem Scan.step_eq_advance (scan : Scan) (number : Nat) (line : List Char)
    (next : Option (List Char)) :
    scan.step number line next = scan.advance number (Role.ofLine line next) := by
  unfold step Role.ofLine
  cases Header.ofLine? line next with
  | none => rfl
  | some header => cases header <;> rfl

theorem Scan.run_eq_foldl (scan : Scan) (number : Nat) (lines : List (List Char)) :
    scan.run number lines =
      ((Role.ofLines lines).zipIdx number).foldl
        (fun scan item => scan.advance item.2 item.1) scan := by
  induction lines generalizing scan number with
  | nil => rfl
  | cons line rest ih =>
      rw [run, Role.ofLines, List.zipIdx_cons, List.foldl_cons, ih, step_eq_advance]

theorem namedPaths_append_other {role : Role} (history : List Role) (other : role.path? = none) :
    namedPaths (history ++ [role]) = namedPaths history := by
  simp [namedPaths, other]

theorem namedPaths_append_names (history : List Role) (path : String) :
    namedPaths (history ++ [.names path]) =
      if path ∈ namedPaths history then namedPaths history else namedPaths history ++ [path] := by
  have named : (history ++ [Role.names path]).filterMap Role.path? =
      history.filterMap Role.path? ++ [path] := by
    rw [List.filterMap_append]
    rfl
  simp only [namedPaths, named, eraseDups_append_singleton, List.mem_eraseDups]

theorem fileReading_congr {place : Place} {history other : List Role}
    (same : changeLines place history = changeLines place other) :
    fileReading place history = fileReading place other := by
  funext path
  rw [fileReading, changesOf, same, ← changesOf, ← fileReading]

theorem changeLines_append_singleton (place : Place) (history : List Role) (role : Role) :
    changeLines place (history ++ [role]) =
      changeLines place history ++ ((place.after history).changeLine? role).toList := by
  rw [changeLines_append, changeLines_singleton]

@[simp] theorem fileReading_path (place : Place) (history : List Role) (path : String) :
    (fileReading place history path).path = path := rfl

theorem fileReading_append {place : Place} {before history : List Role} {line : ChangeLine}
    (lines : changeLines place history = changeLines place before ++ [line]) (path : String) :
    fileReading place history path =
      if path = line.path then
        line.change?.elim (fileReading place before path) (fileReading place before path).push
      else fileReading place before path := by
  rw [fileReading, changesOf, lines, List.filter_append, List.filterMap_append, ← changesOf]
  by_cases same : path = line.path
  · rw [if_pos same]
    cases declared : line.change? with
    | none => simp [same, declared, fileReading]
    | some change => simp [same, declared, fileReading, ModelChange.push_ofChanges]
  · rw [if_neg same]
    simp [Ne.symm same, fileReading]

theorem changesOf_eq_nil {place : Place} {history : List Role} {path : String}
    (start : place.file = none) (unnamed : path ∉ namedPaths history) :
    changesOf place history path = [] := by
  have noLine : (changeLines place history).filter (·.path == path) = [] := by
    rw [List.filter_eq_nil_iff]
    intro line member same
    rcases path_of_mem_changeLines member with file | named
    · simp [start] at file
    · apply unnamed
      rwa [namedPaths, List.mem_eraseDups, ← eq_of_beq same]
  rw [changesOf, noLine, List.filterMap_nil]

namespace Scan

theorem ofHistory_append_quiet {place : Place} {history : List Role} {role : Role}
    (unnamed : role.path? = none) (noLine : (place.after history).changeLine? role = none) :
    ofHistory place (history ++ [role]) =
      { ofHistory place history with block := ((place.after history).after [role]).block } := by
  have file : ((place.after history).after [role]).file = (place.after history).file := by
    rw [Place.after_singleton_file, unnamed, Option.none_or]
  have lines : changeLines place (history ++ [role]) = changeLines place history := by
    rw [changeLines_append_singleton, noLine, Option.toList_none, List.append_nil]
  simp only [ofHistory, Place.after_append, file, lines, fileReading_congr lines,
    namedPaths_append_other history unnamed]

theorem enterFile_ofHistory {place : Place} (start : place.file = none) (history : List Role)
    (path : String) :
    (ofHistory place history).enterFile path = ofHistory place (history ++ [.names path]) := by
  have lines : changeLines place (history ++ [.names path]) = changeLines place history := by
    rw [changeLines_append_singleton]
    simp [Place.changeLine?]
  have known : (ofHistory place history).models.any (·.path == path) = true ↔
      path ∈ namedPaths history := by
    simp [ofHistory, fileReading, ModelChange.ofChanges]
  have block : ((place.after history).after [.names path]).block = (place.after history).block :=
    rfl
  have file : ((place.after history).after [.names path]).file = some path := rfl
  simp only [enterFile, known]
  simp only [ofHistory, Place.after_append, block, file, lines, fileReading_congr lines,
    namedPaths_append_names]
  split
  · rfl
  · rename_i unknown
    rw [List.map_append, List.map_singleton, fileReading, changesOf_eq_nil start unknown]
    rfl

theorem readChange_ofHistory {place : Place} {history : List Role} {role : Role}
    {line : ChangeLine} (found : (place.after history).changeLine? role = some line) :
    { ofHistory place history with block := line.block }.readChange line.path line.direction
        line.text line.number = ofHistory place (history ++ [role]) := by
  have lines : changeLines place (history ++ [role]) = changeLines place history ++ [line] := by
    rw [changeLines_append_singleton, found, Option.toList_some]
  have reading := fileReading_append lines
  obtain ⟨direction, text, path, file, rfl, same⟩ := Place.changeLine?_eq_some found
  have after : ((place.after history).after [.text (some direction) text]).file =
      (place.after history).file := rfl
  have block : ((place.after history).after [.text (some direction) text]).block = line.block := by
    rw [same]
  have named : (Role.text (some direction) text).path? = none := rfl
  have outcome : Declaration.read line.text line.direction line.block line.number = line.outcome :=
    rfl
  have unchanged (noChange : line.change? = none) :
      fileReading place (history ++ [.text (some direction) text]) = fileReading place history := by
    funext other
    simp [reading, noChange]
  simp only [readChange, outcome]
  cases declared : line.outcome with
  | blank =>
      have noChange : line.change? = none := by simp [ChangeLine.change?, declared]
      simp only [ofHistory, Place.after_append, after, block, lines, unchanged noChange,
        namedPaths_append_other history named, ScanStatistics.recordLine_ofLines _ declared]
  | skipped skip =>
      have noChange : line.change? = none := by simp [ChangeLine.change?, declared]
      simp only [ofHistory, Place.after_append, after, block, lines, unchanged noChange,
        namedPaths_append_other history named, ScanStatistics.recordSkip_ofLines _ declared]
  | change change =>
      have change? : line.change? = some change := by simp [ChangeLine.change?, declared]
      simp only [ofHistory, record, Place.after_append, after, block, lines, List.map_map,
        namedPaths_append_other history named, ScanStatistics.recordChange_ofLines _ declared]
      congr 1
      apply List.map_congr_left
      intro other _
      rw [Function.comp_apply, reading other, change?]
      rfl

theorem advance_text (place : Place) (history : List Role) (number : Nat)
    (direction : Option Direction) (text : List Char) :
    (ofHistory place history).advance number (.text direction text) =
      let scan := { ofHistory place history with
        block := ((place.after history).after [.text direction text]).block }
      match direction, (place.after history).file with
      | some direction, some path => scan.readChange path direction text number
      | _, _ => scan := by
  rw [Place.after_text_block]
  rfl

end Scan

/-- Every step keeps the state equal to its history, whatever the role of the line. -/
theorem Scan.advance_ofHistory (block : Block) (history : List Role) (role : Role) :
    (ofHistory { block } history).advance (history.length + 1) role =
      ofHistory { block } (history ++ [role]) := by
  cases role with
  | names path => exact enterFile_ofHistory rfl history path
  | header =>
      rw [ofHistory_append_quiet rfl rfl]
      rfl
  | text direction text =>
      rw [advance_text]
      cases found : (({ block } : Place).after history).changeLine? (.text direction text) with
      | none =>
          rw [ofHistory_append_quiet rfl found]
          cases direction with
          | none => rfl
          | some direction =>
              have file : (({ block } : Place).after history).file = none :=
                Option.map_eq_none_iff.mp found
              rw [file]
      | some line =>
          rw [← readChange_ofHistory found]
          obtain ⟨direction, text, path, file, same, rfl⟩ := Place.changeLine?_eq_some found
          cases same
          rw [file]
          simp [Place.after]

theorem Scan.foldl_advance_eq_ofHistory (block : Block) (history : List Role) :
    (history.zipIdx 1).foldl (fun scan item => scan.advance item.2 item.1) ({ block } : Scan) =
      ofHistory { block } history := by
  -- From the right, since a step adds one role to the history.
  induction history using List.reverseRecOn with
  | nil => rfl
  | append_singleton history role ih =>
      rw [List.zipIdx_append, List.foldl_append, ih, List.zipIdx_singleton, List.foldl_cons,
        List.foldl_nil, Nat.add_comm, advance_ofHistory]

namespace StructuralDiff

def ofModels (stats : ScanStatistics) (models : List ModelChange) : StructuralDiff :=
  let changes := models.filter (·.hasChanges)
  let unchangedFiles := (models.filter (!·.hasChanges)).map (·.path)
  { changes
    unchangedFiles
    stats :=
      { stats with
        filesWithChanges := changes.length
        filesWithoutChanges := unchangedFiles.length
        unchangedExamples := unchangedFiles.take ScanStatistics.maxExamples } }

theorem addFile_ofModels (stats : ScanStatistics) (models : List ModelChange)
    (model : ModelChange) :
    (ofModels stats models).addFile model = ofModels stats (models ++ [model]) := by
  cases changed : model.hasChanges with
  | true => simp [addFile, ofModels, changed]
  | false =>
      have unchanged := ScanStatistics.recordUnchanged_take
        { stats with filesWithChanges := (models.filter (·.hasChanges)).length }
        ((models.filter (!·.hasChanges)).map (·.path)) model.path
      simpa [addFile, ofModels, changed] using unchanged

theorem foldl_addFile (stats : ScanStatistics) (models : List ModelChange) :
    models.foldl addFile (ofModels stats []) = ofModels stats models := by
  induction models using List.reverseRecOn with
  | nil => rfl
  | append_singleton models model ih =>
      rw [List.foldl_append, ih, List.foldl_cons, List.foldl_nil, addFile_ofModels]

end StructuralDiff

def Scan.result (scan : Scan) : StructuralDiff :=
  .ofModels { scan.stats with filesTotal := scan.models.length } scan.models

theorem Scan.finish_ofHistory (place : Place) (history : List Role) :
    (ofHistory place history).finish = (ofHistory place history).result := by
  rw [result, ← StructuralDiff.foldl_addFile]
  rfl

theorem Scan.finish_run (block : Block) (lines : List (List Char)) :
    (({ block } : Scan).run 1 lines).finish =
      (ofHistory { block } (Role.ofLines lines)).result := by
  rw [run_eq_foldl, foldl_advance_eq_ofHistory, finish_ofHistory]

def scanFrom (block : Block) (diff : List Char) : StructuralDiff :=
  (({ block } : Scan).run 1 (lines diff)).finish

theorem scanFrom_eq_result (block : Block) (diff : List Char) :
    scanFrom block diff = (Scan.ofHistory { block } (rolesOf diff)).result :=
  Scan.finish_run block (lines diff)

theorem changes_scanFrom (block : Block) (diff : List Char) :
    (scanFrom block diff).changes =
      ((namedPaths (rolesOf diff)).map (fileReading { block } (rolesOf diff))).filter
        (·.hasChanges) := by
  rw [scanFrom_eq_result]
  rfl

theorem scanText_eq_result (diff : List Char) :
    scanText diff = (Scan.ofHistory {} (rolesOf diff)).result :=
  scanFrom_eq_result .struct diff

theorem counted_files (diff : List Char) :
    (scanText diff).stats.filesWithChanges = (scanText diff).changes.length ∧
      (scanText diff).stats.filesWithoutChanges = (scanText diff).unchangedFiles.length ∧
      (scanText diff).stats.unchangedExamples =
        (scanText diff).unchangedFiles.take ScanStatistics.maxExamples := by
  rw [scanText_eq_result]
  exact ⟨rfl, rfl, rfl⟩

theorem exists_ofChanges_of_mem_changes {diff : List Char} {model : ModelChange}
    (member : model ∈ (scanText diff).changes) :
    ∃ path changes, model = .ofChanges path changes := by
  rw [scanText_eq_result] at member
  obtain ⟨path, _, rfl⟩ := List.mem_map.mp (List.mem_filter.mp member).1
  exact ⟨path, _, rfl⟩

theorem number_of_changeLineAt? {place : Place} {history : List Role} {index : Nat}
    {line : ChangeLine} (found : changeLineAt? place history index = some line) :
    line.number = place.line + index + 1 := by
  unfold changeLineAt? at found
  split at found
  · cases found
    rfl
  · contradiction

theorem changeLines_ordered (place : Place) (history : List Role) :
    (changeLines place history).Pairwise (·.number < ·.number) := by
  rw [changeLines, List.pairwise_filterMap]
  refine List.pairwise_lt_range.imp ?_
  intro first second below line found other foundOther
  rw [number_of_changeLineAt? found, number_of_changeLineAt? foundOther]
  omega

def readings (diff : List Char) : List ModelChange :=
  (namedPaths (rolesOf diff)).map (fileReading {} (rolesOf diff))

/-- A scan gives what its lines say when each is read by itself. -/
theorem scanText_eq_reading (diff : List Char) :
    (scanText diff).changes = (readings diff).filter (·.hasChanges) ∧
      (scanText diff).unchangedFiles =
        ((readings diff).filter (!·.hasChanges)).map (·.path) ∧
      (namedPaths (rolesOf diff)).Nodup ∧
      (changeLines {} (rolesOf diff)).Pairwise (·.number < ·.number) ∧
      (scanText diff).stats.linesAdded =
        (changeLines {} (rolesOf diff)).countP (·.direction = .added) ∧
      (scanText diff).stats.linesRemoved =
        (changeLines {} (rolesOf diff)).countP (·.direction = .removed) := by
  rw [scanText_eq_result]
  exact ⟨rfl, rfl, nodup_eraseDups _, changeLines_ordered _ _, rfl, rfl⟩

end Diff

end ReleaseDrift
