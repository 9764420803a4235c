import ReleaseDrift.CommandLine.Run
import ReleaseDrift.CommandLine.Terminal

/-!
From the words of a command line to what is printed.
-/

namespace ReleaseDrift.CommandLine

inductive Request where
  | help
  | version
  | refused (refusal : Refusal)
  | run (arguments : Arguments) (command : Command)
  deriving Repr, DecidableEq

def configVariable : String := "SDKDRIFT_CONFIG"

def relevantVariables : List String :=
  configVariable :: "NO_COLOR" :: "COLOR" :: "TERM" :: unattendedVariables

def Request.ofWords (surroundings : Surroundings) (words : List String) : Request :=
  match parse (surroundings.get? configVariable) words with
  | .error .help => help
  | .error .version => version
  | .error refusal => refused refusal
  | .ok arguments =>
      match arguments.command with
      | some command => run arguments command
      | none => help

def versionText : String := programName ++ " 0.1.0\n"

def helpText : String := unlines
  ["Detect breaking changes between versions of a generated API client", "",
    "Usage: sdkdrift [OPTIONS] [COMMAND]", "",
    "Commands:",
    "  diff      Analyze one saved version comparison",
    "            --compare <FILE>",
    "  releases  Analyze several version pairs from a directory of comparisons",
    "            --dir <DIR> [--repo <REPO>] <OLD...NEW>...",
    "  schema    Compare two OpenAPI schema documents",
    "            --old <FILE> --new <FILE>",
    "  help      Print this message", "",
    "Options:",
    "  -C, --config <CONFIG>  Config file (default: ./sdkdrift.toml when present)",
    "  -v, --verbose          Print parse statistics and filter diagnostics to stderr",
    "      --color <COLOR>    When to color text output: auto, always or never",
    "  -h, --help             Print help",
    "  -V, --version          Print version", "",
    "Options of every command:",
    "      --usage <FILE>     Usage index (JSON object with models/files/packages, or a list of",
    "                         model names)",
    "  -o, --output <OUTPUT>  Output format: text or json",
    "      --fail-on <LEVEL>  Lowest impact level that fails the run (overrides config)",
    "      --limit <LIMIT>    Maximum files listed per level (default: 15)",
    "      --no-limit         List every file"]

def Refusal.message : Refusal → String
  | help => "help requested"
  | version => "version requested"
  | unknownArgument => "unexpected argument"
  | unknownCommand => "unrecognized subcommand"
  | invalidValue => "a value is missing or not one of the possible values"
  | unreadableValue => "invalid value for an option"
  | tooManyValues => "unexpected value for an option that takes none"
  | conflict => "an option is given twice or together with one that excludes it"
  | missingArgument => "a required argument was not provided"

def outputOfRun (surroundings : Surroundings) (timestamp : String) (arguments : Arguments)
    (command : Command) (run : Run) : Output :=
  run.output timestamp (surroundings.wantsColour arguments.color) arguments.verbose command.report

def Request.output (surroundings : Surroundings) (files : Files) (timestamp : String) :
    Request → Output
  | help => { stdout := helpText }
  | version => { stdout := versionText }
  | refused refusal => { stderr := "error: " ++ refusal.message ++ "\n", code := 2 }
  | run arguments command =>
      outputOfRun surroundings timestamp arguments command (command.run files arguments.config)

def Request.paths : Request → List String
  | run arguments command => command.paths arguments.config
  | _ => []

end ReleaseDrift.CommandLine
