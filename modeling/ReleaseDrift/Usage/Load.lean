import ReleaseDrift.Failure
import ReleaseDrift.Usage

/-!
Reading usage files.
-/

namespace ReleaseDrift.Usage

/-- A file that is no JSON at all is told apart from one that holds no index. -/
def ofText (text : String) : Except DocumentFault Usage :=
  match Json.Written.ofText? text.toList with
  | none => .error .malformed
  | some written =>
      if written.json?.isNone then .error .malformed
      else
        match ofFile? written with
        | some usage => .ok usage
        | none => .error .notUsage

def load (files : Files) : Option String → Except Failure Usage
  | none => .ok {}
  | some path =>
      match (files path).text with
      | .error fault => .error (.file path fault)
      | .ok text => (ofText text).mapError (.parse path)

end ReleaseDrift.Usage
