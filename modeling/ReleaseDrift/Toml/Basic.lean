/-!
TOML values.
-/

namespace ReleaseDrift.Toml

inductive Value where
  | str (text : String)
  | int (n : Int)
  | float (x : Float)
  | bool (b : Bool)
  | moment (text : String)
  | arr (items : List Value)
  | table (members : List (String × Value))
  deriving Repr

namespace Value

def str? : Value → Option String
  | str text => some text
  | _ => none

def int? : Value → Option Int
  | int n => some n
  | _ => none

def arr? : Value → Option (List Value)
  | arr items => some items
  | _ => none

def table? : Value → Option (List (String × Value))
  | table members => some members
  | _ => none

end Value

end ReleaseDrift.Toml
