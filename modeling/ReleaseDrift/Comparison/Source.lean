import ReleaseDrift.Comparison.Payload
import ReleaseDrift.Failure

/-!
Where the comparison of two releases comes from: a file, or a directory with a file for each
pair.
-/

namespace ReleaseDrift

structure Release where
  repo : String
  oldRef : String
  newRef : String
  deriving Repr, DecidableEq

namespace Release

def pair (release : Release) : String := release.oldRef ++ "..." ++ release.newRef

def display (release : Release) : String := release.repo ++ " " ++ release.pair

/-- The file of a release: the location itself, or in a directory the file named for the pair. -/
def payloadPath (release : Release) (files : Files) (location : String) : String :=
  if (files location).isDirectory then joinPath location (release.pair ++ ".json") else location

end Release

namespace Comparison

def ofText? (text : String) : Option Comparison :=
  (Json.Written.ofText? text.toList).bind Comparison.ofWritten?

def load (files : Files) (path : String) : Except SourceFailure Comparison :=
  match (files path).text with
  | .error fault => .error (.read path fault)
  | .ok text =>
      match ofText? text with
      | some comparison => .ok comparison
      | none => .error (.decode path .malformed)

def ofRelease (files : Files) (location : String) (release : Release) :
    Except SourceFailure Comparison :=
  let path := release.payloadPath files location
  if (files path).exists? then load files path
  else .error (.unavailable (release.display ++ ": " ++ path ++ " not found"))

end Comparison

end ReleaseDrift
