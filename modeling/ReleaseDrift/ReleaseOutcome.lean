import ReleaseDrift.Analysis
import ReleaseDrift.Comparison.Source

/-!
Analyses of several releases. A release without a comparison is reported and stops nothing.
-/

namespace ReleaseDrift

inductive Outcome where
  | analyzed (analysis : Analysis)
  | noDiff (failure : SourceFailure)
  deriving Repr, DecidableEq

namespace Outcome

def analysis? : Outcome → Option Analysis
  | analyzed analysis => some analysis
  | noDiff _ => none

def reaches (outcome : Outcome) (threshold : Level) : Bool :=
  outcome.analysis?.any (·.report.reaches threshold)

end Outcome

def Config.analyzeRelease (config : Config) (usage : Usage) (files : Files) (location : String)
    (release : Release) : Outcome :=
  match Comparison.ofRelease files location release with
  | .ok comparison => .analyzed (config.analyze usage comparison)
  | .error failure => .noDiff failure

def Config.analyzeReleases (config : Config) (usage : Usage) (files : Files) (location : String)
    (releases : List Release) : List (Release × Outcome) :=
  releases.map fun release => (release, config.analyzeRelease usage files location release)

def anyReaches (results : List (Release × Outcome)) (threshold : Level) : Bool :=
  results.any fun result => result.2.reaches threshold

end ReleaseDrift
