import ReleaseDrift.Proofs.Declaration.Rendering
import ReleaseDrift.Proofs.Diff.Balance

/-!
A scan of written declarations finds these declarations and nothing else.
-/

namespace ReleaseDrift

open Text
open Declaration (IsName IsWritten)
open Diff (IsPlain Place Role ChangeLine changeLines rolesOf sign sideMark)

def Block.opening (block : Block) (owner : String) : String :=
  "type " ++ owner ++ " " ++ block.name ++ " \x7b"

structure IndentedChange where
  indentation : List Char
  change : Change

namespace IndentedChange

def line (item : IndentedChange) : List Char :=
  sign item.change.direction ++ (item.indentation ++ item.change.text.toList)

structure FitsIn (block : Block) (item : IndentedChange) : Prop where
  blank : ∀ c ∈ item.indentation, isBlank c
  noFeed : '\n' ∉ item.indentation
  fits : item.change.FitsIn block

end IndentedChange

/-- A block as context, and changed lines in it. -/
def declarationPatch (block : Block) (owner : String) (items : List IndentedChange) : String :=
  String.ofList
    (((' ' :: (block.opening owner).toList) :: items.map (·.line)).flatMap (· ++ ['\n']))

def Change.numberedFrom (first : Nat) (changes : List Change) : List Change :=
  (changes.zipIdx first).map fun (change, number) => change.relabel change.direction number

theorem Block.toList_opening (block : Block) (owner : String) :
    (block.opening owner).toList =
      "type ".toList ++ owner.toList ++ ' ' :: (block.name.toList ++ " \x7b".toList) := by
  simp [opening]

theorem Block.opens_opening {owner : String} (named : IsName owner.toList) (block : Block) :
    Declaration.opensInterface (block.opening owner).toList = decide (block = .interface) ∧
      Declaration.opensStruct (block.opening owner).toList = decide (block = .struct) := by
  rw [toList_opening, Declaration.opensInterface, Declaration.opensStruct,
    Declaration.opens_append named, Declaration.opens_append named]
  cases block <;> decide

theorem Block.isTrimmed_opening (block : Block) (owner : String) :
    IsTrimmed (block.opening owner).toList where
  startsPlain := by
    have start : (block.opening owner).toList.head? = some 't' := by
      simp [toList_opening]
    intro c head
    rw [start, Option.mem_some_iff] at head
    rw [← head]
    decide
  endsPlain := by
    have ends : EndsPlain (block.name.toList ++ " \x7b".toList) := by cases block <;> decide
    rw [toList_opening, List.append_cons]
    exact ends.append_left (by simp) _

theorem ofLine_opening (block : Block) (owner : String) (next : Option (List Char)) :
    Role.ofLine (' ' :: (block.opening owner).toList) next =
      .text none (block.opening owner).toList := by
  have unmarked : Diff.Header.ofLine? (' ' :: (block.opening owner).toList) next = none := by
    rw [Diff.ofLine?_eq_none_iff]
    have other : ∀ mark ∈ Diff.pathMarks ++ Diff.metadataMarks,
        mark ≠ [] ∧ mark.head? ≠ some ' ' := by
      decide
    intro mark known start
    obtain ⟨filled, apart⟩ := other mark known
    obtain ⟨c, rest, rfl⟩ := List.exists_cons_of_ne_nil filled
    rw [List.cons_prefix_cons] at start
    exact apart (congrArg some start.1)
  have trimmed := trim_of_isTrimmed (block.isTrimmed_opening owner)
  have marker : Diff.splitMarker (' ' :: (block.opening owner).toList) =
      (none, (block.opening owner).toList) := rfl
  rw [Role.ofLine, unmarked, marker, trimmed]

namespace IndentedChange

variable {item : IndentedChange} {block : Block}

def role (item : IndentedChange) : Role :=
  .text (some item.change.direction) item.change.text.toList

theorem FitsIn.not_sideMark_prefix (fits : item.FitsIn block) :
    ¬ sideMark item.change.direction <+: item.line := by
  have mark : ∃ c ∈ (sideMark item.change.direction).tail,
      isBlank c = false ∧ Declaration.isSignatureChar c = false := by
    cases item.change.direction with
    | added => exact ⟨'+', by decide, by decide, by decide⟩
    | removed => exact ⟨'-', by decide, by decide, by decide⟩
  obtain ⟨c, inside, notBlank, foreign⟩ := mark
  rw [line, Diff.sideMark_eq, List.prefix_append_right_inj]
  intro start
  rcases List.mem_append.mp (start.subset inside) with indentation | text
  · rw [fits.blank c indentation] at notBlank
    contradiction
  · exact Declaration.notMem_of_isSignatureChar fits.fits.isWritten.chars foreign text

theorem FitsIn.ofLine (fits : item.FitsIn block) (next : Option (List Char)) :
    Role.ofLine item.line next = item.role := by
  have trimmed := trim_append_of_isTrimmed fits.blank fits.fits.isWritten.isTrimmed
  have signed := Diff.ofLine_signed fits.not_sideMark_prefix next
  rwa [trimmed] at signed

theorem FitsIn.ofLines {items : List IndentedChange} (fits : ∀ item ∈ items, item.FitsIn block) :
    Role.ofLines (items.map (·.line)) = items.map (·.role) := by
  induction items with
  | nil => rfl
  | cons item items ih =>
      rw [List.forall_mem_cons] at fits
      rw [List.map_cons, Role.ofLines, fits.1.ofLine, ih fits.2, List.map_cons]

theorem FitsIn.noFeed_line (fits : item.FitsIn block) : '\n' ∉ item.line := by
  have signed : '\n' ∉ sign item.change.direction := by cases item.change.direction <;> decide
  have text := Declaration.notMem_of_isSignatureChar fits.fits.isWritten.chars
    (by decide : Declaration.isSignatureChar '\n' = false)
  rw [line, List.mem_append, List.mem_append]
  exact fun member => member.elim signed fun member => member.elim fits.noFeed text

theorem FitsIn.endsPlain_line (fits : item.FitsIn block) : EndsPlain item.line := by
  rw [line, ← List.append_assoc]
  exact fits.fits.isWritten.endsPlain.append_left fits.fits.isWritten.ne_nil _

theorem FitsIn.block?_role (fits : item.FitsIn block) : item.role.block? = none := by
  have opening := fits.fits.isWritten.opening
  have noBrace : item.change.text.toList ≠ ['\x7d'] := by
    intro same
    have chars := fits.fits.isWritten.chars
    rw [same] at chars
    exact absurd (chars '\x7d' List.mem_cons_self) (by decide)
  rw [role, Role.block?, Declaration.opensInterface, Declaration.opensStruct,
    opening.opens_eq_false, opening.opens_eq_false, beq_false_of_ne noBrace]
  rfl

def changeLine (item : IndentedChange) (path : String) (block : Block) (number : Nat) :
    ChangeLine :=
  { path, direction := item.change.direction, block, text := item.change.text.toList, number }

theorem FitsIn.changeLine? {place : Place} (fits : item.FitsIn place.block) {path : String}
    (file : place.file = some path) :
    place.changeLine? item.role = some (item.changeLine path place.block (place.line + 1)) := by
  have block : (place.after [item.role]).block = place.block := by
    rw [Place.after_singleton_block, fits.block?_role, Option.getD_none]
  rw [role] at block
  rw [role, Place.changeLine?, file, block]
  rfl

theorem FitsIn.after_role {place : Place} (fits : item.FitsIn place.block) :
    place.after [item.role] = { place with line := place.line + 1 } := by
  have block := Place.after_singleton_block place item.role
  rw [fits.block?_role, Option.getD_none] at block
  have file : (place.after [item.role]).file = place.file := rfl
  have line : (place.after [item.role]).line = place.line + 1 := rfl
  rw [← file, ← block, ← line]

theorem FitsIn.outcome (fits : item.FitsIn block) (path : String) (number : Nat) :
    (item.changeLine path block number).outcome =
      .change (item.change.relabel item.change.direction number) :=
  Declaration.read_text fits.fits number

theorem changeLines_roles {place : Place} {path : String} (file : place.file = some path)
    {items : List IndentedChange} (fits : ∀ item ∈ items, item.FitsIn place.block) :
    changeLines place (items.map (·.role)) =
      (items.zipIdx (place.line + 1)).map fun (item, number) =>
        item.changeLine path place.block number := by
  induction items generalizing place with
  | nil => rfl
  | cons item items ih =>
      rw [List.forall_mem_cons] at fits
      have rest : changeLines { place with line := place.line + 1 } (items.map (·.role)) =
          (items.zipIdx (place.line + 1 + 1)).map fun (item, number) =>
            item.changeLine path place.block number := ih file fits.2
      rw [List.map_cons, Diff.changeLines_cons, fits.1.changeLine? file, fits.1.after_role, rest,
        List.zipIdx_cons, List.map_cons]
      rfl

end IndentedChange

section Written

variable {path : String} {block : Block} {items : List IndentedChange}

theorem filterMap_change?_numbered (fits : ∀ item ∈ items, item.FitsIn block) (first : Nat) :
    ((items.zipIdx first).map fun (item, number) =>
        item.changeLine path block number).filterMap ChangeLine.change? =
      Change.numberedFrom first (items.map (·.change)) := by
  induction items generalizing first with
  | nil => rfl
  | cons item items ih =>
      rw [List.forall_mem_cons] at fits
      have declared : (item.changeLine path block first).change? =
          some (item.change.relabel item.change.direction first) := by
        rw [ChangeLine.change?, fits.1.outcome]
      rw [List.zipIdx_cons, List.map_cons, List.filterMap_cons_some declared, ih fits.2]
      rfl

theorem filterMap_skip?_numbered (fits : ∀ item ∈ items, item.FitsIn block) (first : Nat) :
    ((items.zipIdx first).map fun (item, number) =>
        item.changeLine path block number).filterMap ChangeLine.skip? = [] := by
  induction items generalizing first with
  | nil => rfl
  | cons item items ih =>
      rw [List.forall_mem_cons] at fits
      have kept : (item.changeLine path block first).skip? = none := by
        rw [ChangeLine.skip?, fits.1.outcome]
      rw [List.zipIdx_cons, List.map_cons, List.filterMap_cons_none kept, ih fits.2]

end Written

namespace ChangedFile

def declaring (file : ChangedFile) (block : Block) (owner : String)
    (items : List IndentedChange) : ChangedFile :=
  { file with patch := some (declarationPatch block owner items) }

variable {file : ChangedFile} {block : Block} {owner : String} {items : List IndentedChange}
  (named : IsName owner.toList) (fits : ∀ item ∈ items, item.FitsIn block)

include named fits

theorem lines_declaring :
    lines (file.declaring block owner items).patchLines =
      (' ' :: (block.opening owner).toList) :: items.map (·.line) := by
  have ownerNoFeed : '\n' ∉ owner.toList := by
    intro member
    exact absurd (named.words _ member) (by decide)
  have nameNoFeed : '\n' ∉ block.name.toList ++ " \x7b".toList := by cases block <;> decide
  have noFeed : ∀ line ∈ (' ' :: (block.opening owner).toList) :: items.map (·.line),
      '\n' ∉ line := by
    rw [List.forall_mem_cons, List.forall_mem_map]
    refine ⟨?_, fun item member => (fits item member).noFeed_line⟩
    rw [Block.toList_opening, List.mem_cons, List.mem_append, List.mem_append, List.mem_cons]
    simp only [not_or]
    exact ⟨by decide, ⟨by decide, ownerNoFeed⟩, by decide, nameNoFeed⟩
  have plain : ∀ line ∈ (' ' :: (block.opening owner).toList) :: items.map (·.line),
      EndsPlain line := by
    rw [List.forall_mem_cons, List.forall_mem_map]
    refine ⟨?_, fun item member => (fits item member).endsPlain_line⟩
    exact (block.isTrimmed_opening owner).endsPlain.append_left
      (by simp [Block.toList_opening]) [' ']
  have fed := getLast?_flatMap_feed (List.cons_ne_nil (' ' :: (block.opening owner).toList)
    (items.map (·.line)))
  simp only [patchLines, declaring, declarationPatch, String.toList_ofList, fed, if_true]
  exact lines_flatMap_feed noFeed plain

theorem roles_declaring :
    (file.declaring block owner items).roles =
      [.names file.path, .header, .names file.path, .text none (block.opening owner).toList] ++
        items.map (·.role) := by
  rw [roles, patchRoles, rolesOf, lines_declaring named fits, Role.ofLines, ofLine_opening,
    IndentedChange.FitsIn.ofLines fits]
  rfl

theorem changeLines_declaring :
    changeLines {} (file.declaring block owner items).roles =
      (items.zipIdx 5).map fun (item, number) => item.changeLine file.path block number := by
  have opened : (Role.text none (block.opening owner).toList).block? = some block := by
    rw [Role.block?, (block.opens_opening named).1, (block.opens_opening named).2]
    cases block <;> rfl
  have blocks : [.names file.path, .header, .names file.path,
      Role.text none (block.opening owner).toList].filterMap Role.block? = [block] := by
    rw [List.filterMap_cons_none rfl, List.filterMap_cons_none rfl, List.filterMap_cons_none rfl,
      List.filterMap_cons_some opened]
    rfl
  have place : ({} : Place).after
      [.names file.path, .header, .names file.path, .text none (block.opening owner).toList] =
        { file := some file.path, block, line := 4 } := by
    rw [Place.after, blocks]
    rfl
  rw [roles_declaring named fits, Diff.changeLines_append, place,
    IndentedChange.changeLines_roles rfl fits]
  rfl

theorem changesOf_declaring :
    Diff.changesOf {} (file.declaring block owner items).roles file.path =
      Change.numberedFrom 5 (items.map (·.change)) := by
  have own : ∀ line ∈ (items.zipIdx 5).map fun (item, number) =>
      item.changeLine file.path block number, (line.path == file.path) = true := by
    rw [List.forall_mem_map]
    exact fun _ _ => beq_self_eq_true file.path
  rw [Diff.changesOf, changeLines_declaring named fits, List.filter_eq_self.mpr own,
    filterMap_change?_numbered fits]

theorem namedPaths_declaring :
    Diff.namedPaths (file.declaring block owner items).roles = [file.path] := by
  have silent : (items.map (·.role)).filterMap Role.path? = [] := by
    rw [List.filterMap_map, List.filterMap_eq_nil_iff]
    exact fun _ _ => rfl
  have twice : [.names file.path, .header, .names file.path,
      Role.text none (block.opening owner).toList].filterMap Role.path? =
        [file.path, file.path] := rfl
  rw [Diff.namedPaths, roles_declaring named fits, List.filterMap_append, silent, twice]
  simp [List.eraseDups_cons]

end ChangedFile

namespace Diff

/-- Scanning undoes writing. Three headers and the line of the block stand before the first
    declaration. -/
theorem scanText_declaring {file : ChangedFile} (plain : IsPlain file.path.toList) {block : Block}
    {owner : String} (named : IsName owner.toList) {items : List IndentedChange}
    (filled : items ≠ []) (fits : ∀ item ∈ items, item.FitsIn block) :
    let diff := scanText (unifiedDiff [file.declaring block owner items])
    diff.changes =
        [ModelChange.ofChanges file.path (Change.numberedFrom 5 (items.map (·.change)))] ∧
      diff.unchangedFiles = [] ∧ diff.stats.skipped = {} := by
  intro diff
  have plainFile : ∀ other ∈ [file.declaring block owner items], IsPlain other.path.toList :=
    List.forall_mem_singleton.mpr plain
  have history : rolesOf (unifiedDiff [file.declaring block owner items]) =
      (file.declaring block owner items).roles := by
    rw [roles_unifiedDiff plainFile, List.flatMap_singleton]
  have model : fileReading {} (file.declaring block owner items).roles file.path =
      .ofChanges file.path (Change.numberedFrom 5 (items.map (·.change))) := by
    rw [fileReading, ChangedFile.changesOf_declaring named fits]
  have changed : (ModelChange.ofChanges file.path
      (Change.numberedFrom 5 (items.map (·.change)))).hasChanges = true := by
    rw [ModelChange.hasChanges, ModelChange.total_ofChanges, Change.numberedFrom, List.length_map,
      List.length_zipIdx, List.length_map, decide_eq_true_eq]
    exact List.length_pos_iff.mpr filled
  have skips : (changeLines {} (file.declaring block owner items).roles).filterMap
      ChangeLine.skip? = [] := by
    rw [ChangedFile.changeLines_declaring named fits, filterMap_skip?_numbered fits]
  have whole : diff = (Scan.ofHistory {} (file.declaring block owner items).roles).result := by
    rw [← history]
    exact scanText_eq_result _
  simp only [whole, Scan.result, StructuralDiff.ofModels, Scan.ofHistory,
    ChangedFile.namedPaths_declaring named fits, List.map_singleton, model, List.filter_singleton,
    changed, ScanStatistics.ofLines, skips]
  exact ⟨rfl, rfl, rfl⟩

theorem scanText_declaring_interface :
    let file : ChangedFile :=
      { path := "models/a b.go", status := .modified, additions := 2, deletions := 2, patch := none }
    let items : List IndentedChange :=
      [⟨"\t".toList, .method ⟨"OnChange", "f func(int) (string, error), all []*Event",
          "(err error)", .removed, none⟩⟩,
        ⟨"\t  ".toList, .method ⟨"OnChange", "", "", .added, none⟩⟩,
        ⟨[], .embedded ⟨"*Entity", .removed, .interface, none⟩⟩,
        ⟨"\u00A0".toList, .embedded ⟨"Base", .added, .interface, none⟩⟩]
    let diff := scanText (unifiedDiff [file.declaring .interface "user_2" items])
    (IsPlain file.path.toList ∧ IsName "user_2".toList ∧ items ≠ [] ∧
        ∀ item ∈ items, item.FitsIn .interface) ∧
      diff.changes = [{ ModelChange.ofPath "models/a b.go" with
        methodsAdded := [⟨"OnChange", "", "", .added, some 6⟩]
        methodsRemoved := [⟨"OnChange", "f func(int) (string, error), all []*Event",
          "(err error)", .removed, some 5⟩]
        embeddedAdded := [⟨"Base", .added, .interface, some 8⟩]
        embeddedRemoved := [⟨"*Entity", .removed, .interface, some 7⟩] }] := by
  intro file items diff
  have plain : IsPlain file.path.toList := by decide
  have named : IsName "user_2".toList := by decide
  have filled : items ≠ [] := List.cons_ne_nil _ _
  have removed : MethodChange.IsPlain ⟨"OnChange", "f func(int) (string, error), all []*Event",
      "(err error)", .removed, none⟩ := ⟨by decide, by decide, by decide, by decide⟩
  have added : MethodChange.IsPlain ⟨"OnChange", "", "", .added, none⟩ :=
    ⟨by decide, by decide, by decide, by decide⟩
  have blank (indentation : List Char) (all : indentation.all isBlank = true) :
      ∀ c ∈ indentation, isBlank c := List.all_eq_true.mp all
  have fits : ∀ item ∈ items, item.FitsIn .interface := by
    simp only [items, List.forall_mem_cons]
    refine ⟨⟨blank _ (by decide), by decide, rfl, removed⟩,
      ⟨blank _ (by decide), by decide, rfl, added⟩,
      ⟨blank _ (by decide), by decide, rfl, by decide⟩,
      ⟨blank _ (by decide), by decide, rfl, by decide⟩, List.forall_mem_nil _⟩
  exact ⟨⟨plain, named, filled, fits⟩, (scanText_declaring plain named filled fits).1⟩

end Diff

end ReleaseDrift
