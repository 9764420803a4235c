/-!
Files as a run sees them. A run only asks what stands at a path, so a snapshot of the paths it
asks for is all it needs.
-/

namespace ReleaseDrift

inductive FileFault where
  | notFound
  | notDirectory
  | isDirectory
  | nameTooLong
  | zeroInPath
  | notText
  | stated (text : String)
  deriving Repr, DecidableEq

def FileFault.message : FileFault → String
  | notFound => "No such file or directory (os error 2)"
  | notDirectory => "Not a directory (os error 20)"
  | isDirectory => "Is a directory (os error 21)"
  | nameTooLong => "File name too long (os error 36)"
  | zeroInPath => "file name contained an unexpected NUL byte"
  | notText => "stream did not contain valid UTF-8"
  | stated text => text

inductive Entry where
  | file (bytes : ByteArray)
  | directory
  | unreadable (fault : FileFault)
  | unreachable (fault : FileFault)

namespace Entry

def exists? : Entry → Bool
  | unreachable _ => false
  | _ => true

def isDirectory : Entry → Bool
  | directory => true
  | _ => false

def isFile : Entry → Bool
  | file _ => true
  | unreadable _ => true
  | _ => false

def text : Entry → Except FileFault String
  | file bytes =>
      match String.fromUTF8? bytes with
      | some text => .ok text
      | none => .error .notText
  | directory => .error .isDirectory
  | unreadable fault => .error fault
  | unreachable fault => .error fault

end Entry

abbrev Files := String → Entry

/-- A path inside a directory; a path from the root stands for itself. -/
def joinPath (directory name : String) : String :=
  if name.toList.head? = some '/' then name
  else if directory.isEmpty ∨ directory.toList.getLast? = some '/' then directory ++ name
  else directory ++ "/" ++ name

end ReleaseDrift
