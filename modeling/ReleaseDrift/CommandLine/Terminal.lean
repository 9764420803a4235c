import ReleaseDrift.CommandLine.Option

/-!
Whether text is coloured.
-/

namespace ReleaseDrift.CommandLine

structure Surroundings where
  get? : String → Option String
  isTerminal : Bool

def unattendedVariables : List String := ["CLAUDE_CODE", "CODEX", "CURSOR", "CI"]

def Surroundings.showsColour (surroundings : Surroundings) : Bool :=
  surroundings.isTerminal &&
    !unattendedVariables.any (fun name => (surroundings.get? name).isSome) &&
    (surroundings.get? "TERM").any (· != "dumb")

/-- What the user says goes first, then the variable against colours, then the one for them. -/
def Surroundings.wantsColour (surroundings : Surroundings) : ColourMode → Bool
  | .always => true
  | .never => false
  | .auto =>
      if (surroundings.get? "NO_COLOR").isSome then false
      else if (surroundings.get? "COLOR").isSome then true
      else surroundings.showsColour

end ReleaseDrift.CommandLine
