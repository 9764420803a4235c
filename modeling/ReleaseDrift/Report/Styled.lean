import ReleaseDrift.Impact.Level

/-!
Styles of text as the escape sequences of a terminal, and a formatter that writes with them or
without.
-/

namespace ReleaseDrift

inductive Colour where
  | red
  | green
  | yellow
  | magenta
  | cyan
  deriving Repr, DecidableEq

def Colour.code : Colour → Char
  | red => '1'
  | green => '2'
  | yellow => '3'
  | magenta => '5'
  | cyan => '6'

structure Style where
  colour : Option Colour := none
  bold : Bool := false
  dimmed : Bool := false
  deriving Repr, DecidableEq

namespace Style

def ofLevel : Level → Style
  | .critical => { colour := some .red, bold := true }
  | .enumRemoved => { colour := some .red, bold := true }
  | .warning => { colour := some .yellow, bold := true }
  | .enumAdded => { colour := some .magenta }
  | .opportunity => { colour := some .green }
  | .safe => { colour := some .green }
  | .metadata => { dimmed := true }
  | .noise => { dimmed := true }

def heading : Style := { bold := true }
def path : Style := { colour := some .cyan }
def detail : Style := { dimmed := true }
def breaking : Style := { colour := some .red, bold := true }
def ok : Style := { colour := some .green, bold := true }

def sequence (setting : List Char) : List Char := '\x1b' :: '[' :: setting ++ ['m']

def reset : List Char := sequence ['0']

/-- A style is set from the reset state, whatever was set before. -/
def codes (style : Style) : List Char :=
  reset ++ (if style.bold then sequence ['1'] else []) ++
    (if style.dimmed then sequence ['2'] else []) ++
    match style.colour with
    | some colour => sequence ['3', colour.code]
    | none => []

end Style

structure Formatter where
  colour : Bool
  limit : Option Nat
  out : String := ""
  truncated : Bool := false
  deriving Repr, DecidableEq

namespace Formatter

def write (formatter : Formatter) (text : String) : Formatter :=
  { formatter with out := formatter.out ++ text }

def writeLine (formatter : Formatter) (text : String) : Formatter := formatter.write (text ++ "\n")

def setStyle (formatter : Formatter) (style : Style) : Formatter :=
  if formatter.colour then formatter.write (.ofList style.codes) else formatter

def reset (formatter : Formatter) : Formatter :=
  if formatter.colour then formatter.write (.ofList Style.reset) else formatter

def truncate (formatter : Formatter) : Formatter := { formatter with truncated := true }

end Formatter

/-- What is written without colour and with it. -/
structure Page where
  plain : String
  ansi : String
  truncated : Bool
  deriving Repr, DecidableEq

def Page.ofWriter (limit : Option Nat) (write : Formatter → Formatter) : Page :=
  let plain := write { colour := false, limit }
  let coloured := write { colour := true, limit }
  { plain := plain.out, ansi := coloured.out, truncated := plain.truncated }

end ReleaseDrift
