import ReleaseDrift.CommandLine.Word
import ReleaseDrift.Comparison.Source

/-!
The arguments of a run.
-/

namespace ReleaseDrift.CommandLine

structure ReportOptions where
  usage : Option String := none
  output : OutputFormat := .text
  failOn : Option Level := none
  limit : Option Nat := some 15
  deriving Repr, DecidableEq

inductive Command where
  | diff (compare : String) (report : ReportOptions)
  | releases (dir repo : String) (pairs : List String) (report : ReportOptions)
  | schema (old new : String) (report : ReportOptions)
  deriving Repr, DecidableEq

def Command.report : Command → ReportOptions
  | diff _ report => report
  | releases _ _ _ report => report
  | schema _ _ report => report

structure Arguments where
  config : Option String := none
  verbose : Bool := false
  color : ColourMode := .auto
  command : Option Command := none
  deriving Repr, DecidableEq

def defaultRepo : String := "sdk"

def Draft.report (draft : Draft) : ReportOptions :=
  let default : ReportOptions := {}
  { usage := draft.usage
    output := draft.output.getD default.output
    failOn := draft.failOn
    limit := if draft.noLimit then none else draft.limit <|> default.limit }

def Draft.command (draft : Draft) (name : CommandName) : Except Refusal Command := do
  if draft.limit.isSome ∧ draft.noLimit then throw .conflict
  let required (value : Option String) : Except Refusal String := demand .missingArgument value
  match name with
  | .diff => return .diff (← required draft.compare) draft.report
  | .releases =>
      let dir ← required draft.dir
      if draft.operands.isEmpty then throw .missingArgument
      return .releases dir (draft.repo.getD defaultRepo) draft.operands draft.report
  | .schema => return .schema (← required draft.old) (← required draft.new) draft.report

/-- The path of the configuration may also come from the environment, for every level that does
    not name one. -/
def checkFallback (fallback : Option String) (draft : Draft) : Except Refusal Unit :=
  match draft.config, fallback with
  | none, some value => (path value).map fun _ => ()
  | _, _ => .ok ()

def parseCommand (fallback : Option String) (name : CommandName) (words : List String) :
    Except Refusal (Draft × Command) := do
  let (reading, _) ← scan (some name) {} words
  let draft ← reading.settle
  checkFallback fallback draft
  return (draft, ← draft.command name)

/-- Reads all words. What stands after the command goes before what stands in front of it. -/
def parse (fallback : Option String) (words : List String) : Except Refusal Arguments := do
  let (reading, next) ← scan none {} words
  match next with
  | some (name, rest) =>
      let (inner, command) ← parseCommand fallback name rest
      let outer ← reading.settle
      checkFallback fallback outer
      return { config := inner.config <|> outer.config <|> fallback
               verbose := inner.verbose || outer.verbose
               color := (inner.color <|> outer.color).getD .auto
               command := some command }
  | none =>
      let draft ← reading.settle
      checkFallback fallback draft
      return { config := draft.config <|> fallback, verbose := draft.verbose,
               color := draft.color.getD .auto }

def release? (repo pair : String) : Option Release :=
  match Text.cut? "...".toList pair.toList with
  | some (old, new) =>
      if old.isEmpty || new.isEmpty then none else some ⟨repo, .ofList old, .ofList new⟩
  | none => none

def releases (repo : String) : List String → Except String (List Release)
  | [] => .ok []
  | pair :: rest =>
      match release? repo pair with
      | none => .error pair
      | some release => (releases repo rest).map (release :: ·)

end ReleaseDrift.CommandLine
