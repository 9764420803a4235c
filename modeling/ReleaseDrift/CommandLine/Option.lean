import ReleaseDrift.Impact.Level
import ReleaseDrift.Text.Basic

/-!
The options of the command line: their names, where they may stand and the values they take.
-/

namespace ReleaseDrift.CommandLine

open Text

inductive Refusal where
  | help
  | version
  | unknownArgument
  | unknownCommand
  | invalidValue
  | unreadableValue
  | tooManyValues
  | conflict
  | missingArgument
  deriving Repr, DecidableEq

inductive ColourMode where
  | auto
  | always
  | never
  deriving Repr, DecidableEq

namespace ColourMode

def name : ColourMode → String
  | auto => "auto"
  | always => "always"
  | never => "never"

def ofName? (name : String) : Option ColourMode := [auto, always, never].find? (·.name == name)

end ColourMode

inductive OutputFormat where
  | text
  | json
  deriving Repr, DecidableEq

namespace OutputFormat

def name : OutputFormat → String
  | text => "text"
  | json => "json"

def ofName? (name : String) : Option OutputFormat := [text, json].find? (·.name == name)

end OutputFormat

inductive Flag where
  | help
  | version
  | config
  | verbose
  | color
  | usage
  | output
  | failOn
  | limit
  | noLimit
  | compare
  | dir
  | repo
  | old
  | new
  deriving Repr, DecidableEq

namespace Flag

def long : Flag → String
  | help => "help"
  | version => "version"
  | config => "config"
  | verbose => "verbose"
  | color => "color"
  | usage => "usage"
  | output => "output"
  | failOn => "fail-on"
  | limit => "limit"
  | noLimit => "no-limit"
  | compare => "compare"
  | dir => "dir"
  | repo => "repo"
  | old => "old"
  | new => "new"

def short? : Flag → Option Char
  | help => some 'h'
  | version => some 'V'
  | config => some 'C'
  | verbose => some 'v'
  | output => some 'o'
  | _ => none

def takesValue : Flag → Bool
  | help => false
  | version => false
  | verbose => false
  | noLimit => false
  | _ => true

end Flag

inductive CommandName where
  | diff
  | releases
  | schema
  deriving Repr, DecidableEq

namespace CommandName

def name : CommandName → String
  | diff => "diff"
  | releases => "releases"
  | schema => "schema"

def all : List CommandName := [diff, releases, schema]

def ofName? (name : String) : Option CommandName := all.find? (·.name == name)

def flags : CommandName → List Flag
  | diff => [.compare]
  | releases => [.dir, .repo]
  | schema => [.old, .new]

end CommandName

def flagsOf : Option CommandName → List Flag
  | none => [.config, .verbose, .color, .help, .version]
  | some command =>
      command.flags ++
        [.config, .verbose, .color, .usage, .output, .failOn, .limit, .noLimit, .help]

structure Draft where
  config : Option String := none
  verbose : Bool := false
  color : Option ColourMode := none
  usage : Option String := none
  output : Option OutputFormat := none
  failOn : Option Level := none
  limit : Option Nat := none
  noLimit : Bool := false
  compare : Option String := none
  dir : Option String := none
  repo : Option String := none
  old : Option String := none
  new : Option String := none
  operands : List String := []
  deriving Repr, DecidableEq

def path (value : String) : Except Refusal String :=
  if value.isEmpty then .error .invalidValue else .ok value

def count? (value : String) : Option Nat :=
  let digits := match value.toList with
    | '+' :: rest => rest
    | s => s
  if digits.isEmpty || !digits.all isDigit then none
  else
    let n := digits.foldl (fun n c => n * 10 + (c.toNat - '0'.toNat)) 0
    if n < Nat.pow 2 64 then some n else none

def demand {α : Type} (refusal : Refusal) : Option α → Except Refusal α
  | some value => .ok value
  | none => .error refusal

namespace Draft

def has (draft : Draft) : Flag → Bool
  | .help => false
  | .version => false
  | .config => draft.config.isSome
  | .verbose => draft.verbose
  | .color => draft.color.isSome
  | .usage => draft.usage.isSome
  | .output => draft.output.isSome
  | .failOn => draft.failOn.isSome
  | .limit => draft.limit.isSome
  | .noLimit => draft.noLimit
  | .compare => draft.compare.isSome
  | .dir => draft.dir.isSome
  | .repo => draft.repo.isSome
  | .old => draft.old.isSome
  | .new => draft.new.isSome

def put (draft : Draft) (value : String) : Flag → Except Refusal Draft
  | .help => .error .help
  | .version => .error .version
  | .config => return { draft with config := ← path value }
  | .verbose => .ok { draft with verbose := true }
  | .color => return { draft with color := ← demand .invalidValue (ColourMode.ofName? value) }
  | .usage => return { draft with usage := ← path value }
  | .output => return { draft with output := ← demand .invalidValue (OutputFormat.ofName? value) }
  | .failOn => return { draft with failOn := ← demand .unreadableValue (Level.ofName? value) }
  | .limit => return { draft with limit := ← demand .unreadableValue (count? value) }
  | .noLimit => .ok { draft with noLimit := true }
  | .compare => return { draft with compare := ← path value }
  | .dir => return { draft with dir := ← path value }
  | .repo => .ok { draft with repo := value }
  | .old => return { draft with old := ← path value }
  | .new => return { draft with new := ← path value }

/-- An option is given once; that is noticed before its value is read. -/
def give (draft : Draft) (flag : Flag) (value : String) : Except Refusal Draft :=
  if draft.has flag then .error .conflict else draft.put value flag

end Draft

end ReleaseDrift.CommandLine
