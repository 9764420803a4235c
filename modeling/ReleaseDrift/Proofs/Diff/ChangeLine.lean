import Mathlib.Data.List.Basic
import ReleaseDrift.Diff.Scan

/-!
A declarative reading of a diff. Each line has a role, found from the line and the one after
it. The file and the block of a changed line are read off the roles before it, and no state is
carried from line to line.
-/

namespace ReleaseDrift.Diff

open Text
open Declaration (Outcome Skip)

/-- A line names a file, is another header, or is text of the file named before it, with its
    marker and the blanks around it removed. -/
inductive Role where
  | names (path : String)
  | header
  | text (direction : Option Direction) (line : List Char)
  deriving Repr, DecidableEq

namespace Role

def ofLine (line : List Char) (next : Option (List Char)) : Role :=
  match Header.ofLine? line next with
  | some (.file path) => .names (String.ofList path)
  | some .other => .header
  | none => .text (splitMarker line).1 (trim (splitMarker line).2)

def ofLines : List (List Char) → List Role
  | [] => []
  | line :: rest => ofLine line rest.head? :: ofLines rest

def path? : Role → Option String
  | names path => some path
  | _ => none

def direction? : Role → Option Direction
  | text direction _ => direction
  | _ => none

def block? : Role → Option Block
  | text _ line =>
      if Declaration.opensInterface line then some .interface
      else if Declaration.opensStruct line || line == ['\x7d'] then some .struct
      else none
  | _ => none

end Role

def rolesOf (diff : List Char) : List Role := Role.ofLines (lines diff)

/-- A place in a diff: the file and the block that a line there belongs to, and the number of
    lines before it. -/
structure Place where
  file : Option String := none
  block : Block := .struct
  line : Nat := 0
  deriving Repr, DecidableEq

/-- The place after some lines. The last file named and the last block opened count; where there
    is none, those of the place before the lines do. -/
def Place.after (place : Place) (history : List Role) : Place :=
  { file := (history.filterMap Role.path?).getLast?.or place.file
    block := (history.filterMap Role.block?).getLast?.getD place.block
    line := place.line + history.length }

structure ChangeLine where
  path : String
  direction : Direction
  block : Block
  text : List Char
  number : Nat
  deriving Repr, DecidableEq

namespace ChangeLine

def outcome (line : ChangeLine) : Outcome :=
  Declaration.read line.text line.direction line.block line.number

def change? (line : ChangeLine) : Option Change :=
  match line.outcome with
  | .change change => some change
  | _ => none

def skip? (line : ChangeLine) : Option Skip :=
  match line.outcome with
  | .skipped skip => some skip
  | _ => none

end ChangeLine

/-- The changed line at an index. Its file is the one named last before it; its block counts the
    line itself. A line before the first named file is none. -/
def changeLineAt? (place : Place) (history : List Role) (index : Nat) : Option ChangeLine :=
  match history[index]?, (place.after (history.take index)).file with
  | some (.text (some direction) text), some path =>
      some { path, direction, text
             block := (place.after (history.take (index + 1))).block
             number := place.line + index + 1 }
  | _, _ => none

def changeLines (place : Place) (history : List Role) : List ChangeLine :=
  (List.range history.length).filterMap (changeLineAt? place history)

def namedPaths (history : List Role) : List String := (history.filterMap Role.path?).eraseDups

def changesOf (place : Place) (history : List Role) (path : String) : List Change :=
  ((changeLines place history).filter (·.path == path)).filterMap ChangeLine.change?

theorem Place.after_nil (place : Place) : place.after [] = place := by
  cases place
  rfl

theorem Place.after_append (place : Place) (before history : List Role) :
    place.after (before ++ history) = (place.after before).after history := by
  simp only [after, List.filterMap_append, List.getLast?_append, List.length_append]
  congr 1
  · rw [Option.or_assoc]
  · cases (history.filterMap Role.block?).getLast? <;> simp
  · omega

theorem changeLineAt?_append_left (place : Place) (before history : List Role) (index : Nat)
    (bound : index < before.length) :
    changeLineAt? place (before ++ history) index = changeLineAt? place before index := by
  simp only [changeLineAt?, List.getElem?_append_left bound, List.take_append_of_le_length bound,
    List.take_append_of_le_length (Nat.le_of_lt bound)]

theorem changeLineAt?_append_right (place : Place) (before history : List Role) (index : Nat) :
    changeLineAt? place (before ++ history) (before.length + index) =
      changeLineAt? (place.after before) history index := by
  have line : (place.after before).line = place.line + before.length := rfl
  simp only [changeLineAt?, List.getElem?_append_right (Nat.le_add_right _ _),
    Nat.add_sub_cancel_left, Nat.add_assoc, List.take_length_add_append, Place.after_append, line]

theorem changeLines_append (place : Place) (before history : List Role) :
    changeLines place (before ++ history) =
      changeLines place before ++ changeLines (place.after before) history := by
  simp only [changeLines, List.length_append, List.range_add, List.filterMap_append,
    List.filterMap_map]
  congr 1
  · apply List.filterMap_congr
    intro index member
    exact changeLineAt?_append_left place before history index (List.mem_range.mp member)
  · apply List.filterMap_congr
    intro index _
    exact changeLineAt?_append_right place before history index

def Place.changeLine? (place : Place) : Role → Option ChangeLine
  | .text (some direction) text =>
      place.file.map fun path =>
        { path, direction, text
          block := (place.after [.text (some direction) text]).block
          number := place.line + 1 }
  | _ => none

theorem changeLines_singleton (place : Place) (role : Role) :
    changeLines place [role] = (place.changeLine? role).toList := by
  cases role with
  | names path => rfl
  | header => rfl
  | text direction text =>
      cases direction with
      | none => simp [changeLines, changeLineAt?, Place.changeLine?]
      | some direction =>
          cases found : place.file <;>
            simp [changeLines, changeLineAt?, Place.changeLine?, Place.after_nil, found]

theorem changeLines_cons (place : Place) (role : Role) (history : List Role) :
    changeLines place (role :: history) =
      (place.changeLine? role).toList ++ changeLines (place.after [role]) history := by
  rw [← changeLines_singleton, ← changeLines_append, List.singleton_append]

theorem Place.changeLine?_eq_some {place : Place} {role : Role} {line : ChangeLine}
    (found : place.changeLine? role = some line) :
    ∃ direction text path, place.file = some path ∧ role = .text (some direction) text ∧
      line = { path, direction, text
               block := (place.after [.text (some direction) text]).block
               number := place.line + 1 } := by
  match role with
  | .text (some direction) text =>
      obtain ⟨path, file, same⟩ := Option.map_eq_some_iff.mp found
      exact ⟨direction, text, path, file, rfl, same.symm⟩
  | .text none text => simp [changeLine?] at found
  | .names path => simp [changeLine?] at found
  | .header => simp [changeLine?] at found

theorem Place.file_of_changeLine? {place : Place} {role : Role} {line : ChangeLine}
    (found : place.changeLine? role = some line) : place.file = some line.path := by
  obtain ⟨direction, text, path, file, rfl, rfl⟩ := changeLine?_eq_some found
  exact file

theorem Place.after_singleton_file (place : Place) (role : Role) :
    (place.after [role]).file = role.path?.or place.file := by
  cases role <;> rfl

theorem Place.after_singleton_block (place : Place) (role : Role) :
    (place.after [role]).block = role.block?.getD place.block := by
  simp only [after, List.filterMap_cons, List.filterMap_nil]
  cases role.block? <;> rfl

theorem Place.after_text_block (place : Place) (direction : Option Direction) (text : List Char) :
    (place.after [.text direction text]).block = nextBlock place.block text := by
  rw [after_singleton_block, Role.block?, nextBlock]
  split
  · rfl
  · split <;> rfl

theorem path_of_mem_changeLines {place : Place} {history : List Role} {line : ChangeLine}
    (member : line ∈ changeLines place history) :
    place.file = some line.path ∨ line.path ∈ history.filterMap Role.path? := by
  induction history generalizing place with
  | nil => simp [changeLines] at member
  | cons role history ih =>
      rw [changeLines_cons, List.mem_append, Option.mem_toList] at member
      rcases member with first | later
      · exact Or.inl (place.file_of_changeLine? first)
      · rcases ih later with file | named
        · rw [Place.after_singleton_file, Option.or_eq_some_iff] at file
          rcases file with here | ⟨_, before⟩
          · exact Or.inr (List.mem_filterMap.mpr ⟨role, List.mem_cons_self, here⟩)
          · exact Or.inl before
        · obtain ⟨namer, inside, path⟩ := List.mem_filterMap.mp named
          exact Or.inr (List.mem_filterMap.mpr ⟨namer, List.mem_cons_of_mem _ inside, path⟩)

end ReleaseDrift.Diff
