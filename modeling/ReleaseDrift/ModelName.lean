import ReleaseDrift.Text.Basic
import ReleaseDrift.Text.UpperCase

/-!
Model names. A generated file is called `chat_message.go` where the schema says
`microsoft.graph.chatMessage`; both give the model name `ChatMessage`.
-/

namespace ReleaseDrift.ModelName

open Text

def isSeparator (c : Char) : Bool := c == '_' || c == '-' || c == '.' || isBlank c

/-- Drops separators. A character is upper-cased where a word starts and kept elsewhere. -/
def joinWords : (atStart : Bool) → List Char → List Char
  | _, [] => []
  | atStart, c :: rest =>
      if isSeparator c then joinWords true rest
      else if atStart then upper c ++ joinWords false rest
      else c :: joinWords false rest

def pascal (name : List Char) : List Char := joinWords true name

def ofName (name : String) : String := String.ofList (pascal name.toList)

/-- The last component of a path, empty components and `.` aside. A path that ends in `..`
    names no file. -/
def fileName? (path : List Char) : Option (List Char) :=
  let parts := (pieces (· == '/') path).filter fun part => part != [] && part != ['.']
  match parts.getLast? with
  | some part => if part = ['.', '.'] then none else some part
  | none => none

def stem (file : List Char) : List Char :=
  match cutLast? ['.'] file with
  | some ([], _) => file
  | some (before, _) => before
  | none => file

def extension? (file : List Char) : Option (List Char) :=
  match cutLast? ['.'] file with
  | some ([], _) => none
  | some (_, tail) => some tail
  | none => none

def ofPath (path : String) : String :=
  String.ofList (pascal (((fileName? path.toList).map stem).getD path.toList))

def ofSchema (schemaName : String) : String :=
  String.ofList (pascal
    (((cutLast? ['.'] schemaName.toList).map Prod.snd).getD schemaName.toList))

def parentDir (path : String) : String :=
  String.ofList (((cutLast? ['/'] path.toList).map Prod.fst).getD [])

end ReleaseDrift.ModelName
