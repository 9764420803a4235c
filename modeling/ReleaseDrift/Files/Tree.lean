import ReleaseDrift.Files
import ReleaseDrift.Text.Basic

/-!
A directory with all that is in it, and what its paths lead to.
-/

namespace ReleaseDrift

inductive FileTree where
  | file (bytes : ByteArray)
  | directory (entries : List (String × FileTree))

namespace FileTree

def empty : FileTree := directory []

def entries : FileTree → List (String × FileTree)
  | file _ => []
  | directory entries => entries

def insert (content : FileTree) : (path : List String) → FileTree → FileTree
  | [], _ => content
  | name :: path, tree =>
      let inner := insert content path ((tree.entries.lookup name).getD empty)
      directory ((name, inner) :: tree.entries.filter fun entry => entry.1 != name)

def components (path : String) : List String :=
  (Text.pieces (· == '/') path.toList).map String.ofList

def ofList (contents : List (String × FileTree)) : FileTree :=
  contents.foldl
    (fun tree (path, content) => insert content ((components path).filter (!·.isEmpty)) tree) empty

def entry : FileTree → Entry
  | file bytes => .file bytes
  | directory _ => .directory

def maxNameBytes : Nat := 255

def maxPathBytes : Nat := 4095

/-- Follows a path from a directory, whose parents are given from the innermost. No path leads
    through a file. Around the outermost directory there are only directories, and nothing is
    known to be in them. -/
def follow (parents : List FileTree) : FileTree → List String → Entry
  | here, [] => here.entry
  | file _, _ :: _ => .unreachable .notDirectory
  | directory entries, name :: path =>
      if name = "" ∨ name = "." then follow parents (directory entries) path
      else if name = ".." then
        match parents with
        | parent :: parents => follow parents parent path
        | [] => follow [] empty path
      else if name.utf8ByteSize > maxNameBytes then .unreachable .nameTooLong
      else
        match entries.lookup name with
        | some inner => follow (directory entries :: parents) inner path
        | none => .unreachable .notFound
termination_by _ path => path.length

def files (tree : FileTree) : Files := fun path =>
  if path.toList.contains '\x00' then .unreachable .zeroInPath
  else if path.utf8ByteSize > maxPathBytes then .unreachable .nameTooLong
  else if path.toList.head? = some '/' then follow [] empty (components path)
  else follow [] tree (components path)

end FileTree

end ReleaseDrift
