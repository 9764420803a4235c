import ReleaseDrift.Text.Basic

/-!
Header lines of a unified diff and the paths they name.
-/

namespace ReleaseDrift.Diff

open Text

/-- The path on the new side of `a/old b/new`. Two equal paths are cut in the middle, so that
    a path may hold ` b/` itself; else the last ` b/` divides them. -/
def gitHeaderPath? (rest : List Char) : Option (List Char) :=
  let halves := if byteLength rest % 2 == 1 then cutAtByte? (byteLength rest / 2) rest else none
  let same := match halves with
    | some (old, ' ' :: new) =>
        match after? "a/".toList old, after? "b/".toList new with
        | some oldPath, some newPath => if oldPath = newPath then some newPath else none
        | _, _ => none
    | _ => none
  match same with
  | some path => some path
  | none => (cutLast? " b/".toList rest).map fun (_, path) => trim path

def sidePath? (side rest : List Char) : Option (List Char) :=
  let path := trim (rest.takeWhile (· != '\t'))
  if path = "/dev/null".toList || path = [] then none
  else some ((after? side path).getD path)

inductive Header where
  | file (path : List Char)
  | other
  deriving Repr, DecidableEq

def Header.ofPath? : Option (List Char) → Header
  | some path => .file path
  | none => .other

def metadataMarks : List (List Char) :=
  ["index ", "@@", "new file mode", "deleted file mode", "old mode", "new mode",
    "similarity index", "dissimilarity index", "rename from", "rename to", "copy from",
    "copy to", "Binary files", "\\ No newline"].map String.toList

/-- Recognises a header. A `---` line names the file only when the line after it shows a
    deletion. -/
def Header.ofLine? (line : List Char) (next : Option (List Char)) : Option Header :=
  match after? "diff --git ".toList line with
  | some rest => some (.ofPath? (gitHeaderPath? (trimEnd rest)))
  | none =>
      match after? "+++ ".toList line with
      | some rest => some (.ofPath? (sidePath? "b/".toList rest))
      | none =>
          match after? "--- ".toList line with
          | some rest =>
              if next.any (startsWith "+++ /dev/null".toList) then
                some (.ofPath? (sidePath? "a/".toList rest))
              else some .other
          | none => if metadataMarks.any (startsWith · line) then some .other else none

end ReleaseDrift.Diff
