import ReleaseDrift.CommandLine.Arguments
import ReleaseDrift.Config.Reader
import ReleaseDrift.Findings
import ReleaseDrift.Schema.Load
import ReleaseDrift.Usage.Load

/-!
A run: what the arguments ask for, found in the files they name, and what is printed about it.
-/

namespace ReleaseDrift.CommandLine

/-- What a command finds with some settings. The usage file is read before anything else. -/
def Command.findings (files : Files) (config : Config) : Command → Except Failure Findings
  | diff compare report => do
      let usage ← Usage.load files report.usage
      let comparison ← (Comparison.load files compare).mapError .source
      return .comparison (config.analyze usage comparison)
  | releases dir repo pairs report => do
      let usage ← Usage.load files report.usage
      let requests ← (CommandLine.releases repo pairs).mapError fun pair =>
        .argument ("invalid version pair \x60" ++ pair ++ "\x60 (expected OLD...NEW)")
      return .releases (config.analyzeReleases usage files dir requests)
  | schema old new report => do
      let usage ← Usage.load files report.usage
      let before ← SchemaDocument.load files old
      let after ← SchemaDocument.load files new
      return .schemas (config.analyzeSchemas usage before after)

structure Run where
  unknown : List UnknownField
  result : Except Failure (Findings × Level)

def Command.run (files : Files) (configPath : Option String) (command : Command)
    (explain : Config.Explanation := Config.unexplained) : Run :=
  let (unknown, config) := Config.load files configPath explain
  { unknown
    result := do
      let config ← config
      return (← command.findings files config, command.report.failOn.getD config.impact.failOn) }

def Command.paths (configPath : Option String) (command : Command) : List String :=
  configPath.getD Config.defaultPath :: command.report.usage.toList ++
    match command with
    | diff compare _ => [compare]
    | releases dir repo pairs _ =>
        dir :: (pairs.filterMap (release? repo)).map fun release =>
          joinPath dir (release.pair ++ ".json")
    | schema old new _ => [old, new]

structure Output where
  stdout : String := ""
  stderr : String := ""
  code : Nat := 0
  deriving Repr, DecidableEq

def programName : String := "sdkdrift"

def unlines (lines : List String) : String := String.join (lines.map (· ++ "\n"))

def Run.diagnostics (verbose : Bool) (run : Run) : List String :=
  (run.unknown.map fun unknown => programName ++ ": warning: " ++ unknown.message) ++
    match run.result with
    | .error failure => [programName ++ ": " ++ failure.message]
    | .ok (findings, _) =>
        if verbose then findings.details.map ("[verbose] " ++ ·) else []

def Run.output (timestamp : String) (colour verbose : Bool) (options : ReportOptions) (run : Run) :
    Output :=
  let stderr := unlines (run.diagnostics verbose)
  match run.result with
  | .error failure => { stderr, code := failure.exitCode.code }
  | .ok (findings, failOn) =>
      let stdout := match options.output with
        | .json => findings.document timestamp failOn
        | .text => (findings.write { colour, limit := options.limit } failOn).out
      { stdout, stderr, code := (findings.exitCode failOn).code }

end ReleaseDrift.CommandLine
