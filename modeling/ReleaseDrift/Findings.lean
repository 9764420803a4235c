import ReleaseDrift.Report.Details
import ReleaseDrift.Report.Document
import ReleaseDrift.Report.Text

/-!
What a run found, whichever command it was.
-/

namespace ReleaseDrift

inductive Findings where
  | comparison (analysis : Analysis)
  | releases (results : List (Release × Outcome))
  | schemas (analysis : SchemaAnalysis)
  deriving Repr

namespace Findings

def reaches : Findings → Level → Bool
  | comparison analysis, threshold => analysis.report.reaches threshold
  | releases results, threshold => anyReaches results threshold
  | schemas analysis, threshold => analysis.report.reaches threshold

def exitCode (findings : Findings) (failOn : Level) : ExitCode :=
  if findings.reaches failOn then .breaking else .success

def write (findings : Findings) (formatter : Formatter) (failOn : Level) : Formatter :=
  match findings with
  | comparison analysis => formatter.writeAnalysis analysis failOn
  | releases results =>
      results.foldl (fun formatter result => formatter.writeRelease result.1 result.2 failOn)
        formatter
  | schemas analysis => formatter.writeSchemaAnalysis analysis failOn

def page (findings : Findings) (limit : Option Nat) (failOn : Level) : Page :=
  .ofWriter limit (findings.write · failOn)

def members : Findings → List (String × Json)
  | comparison analysis => analysis.members
  | releases results => releasesMembers results
  | schemas analysis => analysis.members

def document (findings : Findings) (timestamp : String) (failOn : Level) : String :=
  ReleaseDrift.document timestamp (findings.reaches failOn) findings.members

def details : Findings → List String
  | comparison analysis => analysis.details
  | releases results => results.flatMap releaseDetails
  | schemas analysis => analysis.details

end Findings

end ReleaseDrift
