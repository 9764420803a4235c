import ReleaseDrift.Files
import ReleaseDrift.Report.Basic

/-!
Why a run fails, in the words that the user sees, and how it ends then.
-/

namespace ReleaseDrift

inductive ConfigFault where
  | missingVersion
  | unsupportedVersion (version : Int)
  | unknownLevel (name : String)
  | stated (text : String)
  deriving Repr, DecidableEq

/-- What is said of a document when the words of the decoder are not known. -/
@[match_pattern] def ConfigFault.malformed : ConfigFault := .stated "malformed document"

def supportedVersion : Int := 1

def ConfigFault.message : ConfigFault → String
  | missingVersion => "missing required field: version"
  | unsupportedVersion version =>
      "unsupported config version " ++ toString version ++ " (supported: " ++
        toString supportedVersion ++ ")\n  Upgrade sdkdrift to use this config."
  | unknownLevel name =>
      "impact.fail_on: unknown level `" ++ name ++ "` (expected one of: " ++
        ", ".intercalate (Level.all.map (·.name)) ++ ")"
  | stated text => text

inductive DocumentFault where
  | malformed
  | notSchemas
  | notUsage
  | stated (text : String)
  deriving Repr, DecidableEq

def DocumentFault.message : DocumentFault → String
  | malformed => "malformed document"
  | notSchemas => "expected an OpenAPI document or a schema map"
  | notUsage => "data did not match any variant of untagged enum UsageFile"
  | stated text => text

inductive SourceFailure where
  | unavailable (text : String)
  | read (path : String) (fault : FileFault)
  | decode (path : String) (fault : DocumentFault)
  deriving Repr, DecidableEq

def SourceFailure.message : SourceFailure → String
  | unavailable text => "no diff available: " ++ text
  | read path fault => "failed to read " ++ path ++ ": " ++ fault.message
  | decode path fault => "invalid compare payload " ++ path ++ ": " ++ fault.message

inductive Failure where
  | config (fault : ConfigFault)
  | argument (text : String)
  | file (path : String) (fault : FileFault)
  | parse (path : String) (fault : DocumentFault)
  | source (failure : SourceFailure)
  | internal (text : String)
  deriving Repr, DecidableEq

namespace Failure

def message : Failure → String
  | config fault => "config error: " ++ fault.message
  | argument text => "argument error: " ++ text
  | file path fault => "io error: " ++ path ++ ": " ++ fault.message
  | parse path fault => "parse error: " ++ path ++ ": " ++ fault.message
  | source failure => failure.message
  | internal text => "internal error: " ++ text

/-- What the user wrote is told apart from what could not be obtained. -/
def exitCode : Failure → ExitCode
  | config _ => .badInput
  | argument _ => .badInput
  | parse _ _ => .badInput
  | file _ _ => .failure
  | source _ => .failure
  | internal _ => .failure

end Failure

end ReleaseDrift
