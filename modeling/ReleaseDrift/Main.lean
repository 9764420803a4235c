import ReleaseDrift.CommandLine.Request
import ReleaseDrift.Timestamp
import Std.Time.DateTime.Timestamp

/-!
The command line. Variables and files are read first; what is printed is then a function of them.
-/

namespace ReleaseDrift.Main

open CommandLine

/-- The number of an error of the operating system, which may be given as a negative one. -/
def errorNumber (code : UInt32) : Nat :=
  if code.toNat < Nat.pow 2 31 then code.toNat else Nat.pow 2 32 - code.toNat

def describe (details : String) (code : UInt32) : FileFault :=
  .stated (details ++ " (os error " ++ toString (errorNumber code) ++ ")")

def entryOfError : IO.Error → Entry
  | .noFileOrDirectory _ _ _ => .unreachable .notFound
  | .inappropriateType _ code details =>
      if errorNumber code = 20 then .unreachable .notDirectory
      else if errorNumber code = 21 then .directory
      else .unreadable (describe details code)
  | .invalidArgument _ code details =>
      if errorNumber code = 36 then .unreachable .nameTooLong
      else .unreadable (describe details code)
  | .permissionDenied _ code _ => .unreadable (describe "Permission denied" code)
  | error => .unreadable (.stated (toString error))

def readEntry (path : String) : IO Entry := do
  try
    return .file (← IO.FS.readBinFile path)
  catch error => return entryOfError error

def readVariables : IO (List (String × String)) := do
  let values ← relevantVariables.mapM fun name => do
    return (← IO.getEnv name).map fun value => (name, value)
  return values.filterMap id

def readFiles (paths : List String) : IO Files := do
  let entries ← paths.mapM fun path => do return (path, ← readEntry path)
  return fun path => (entries.lookup path).getD (.unreachable .notFound)

def respond (words : List String) : IO UInt32 := do
  let values ← readVariables
  let stdout ← IO.getStdout
  let surroundings : Surroundings := ⟨fun name => values.lookup name, ← stdout.isTty⟩
  let request := Request.ofWords surroundings words
  let files ← readFiles request.paths
  let now ← Std.Time.Timestamp.now
  let timestamp := Timestamp.ofSeconds now.toSecondsSinceUnixEpoch.toInt.toNat
  let output := request.output surroundings files timestamp
  IO.eprint output.stderr
  IO.print output.stdout
  return UInt32.ofNat output.code

end ReleaseDrift.Main

def main (words : List String) : IO UInt32 := ReleaseDrift.Main.respond words
