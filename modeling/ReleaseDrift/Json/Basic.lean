import ReleaseDrift.Sorted

/-!
JSON values. The members of an object are in ascending order of their names, except in a
document that is about to be written.
-/

namespace ReleaseDrift

/-- An integer has neither fraction nor exponent and fits 64 bits; other numbers are rounded. -/
inductive Number where
  | int (value : Int)
  | real (value : Float)
  deriving Repr

def Number.toFloat : Number → Float
  | int value =>
      if value < 0 then -(Float.ofScientific (-value).toNat false 0)
      else Float.ofScientific value.toNat false 0
  | real value => value

inductive Json where
  | null
  | bool (value : Bool)
  | num (value : Number)
  | str (value : String)
  | arr (items : List Json)
  | obj (members : List (String × Json))
  deriving Repr

namespace Json

def ofNat (n : Nat) : Json := num (.int n)

def ofOption : Option Json → Json
  | some value => value
  | none => null

def obj? : Json → Option (List (String × Json))
  | obj members => some members
  | _ => none

def arr? : Json → Option (List Json)
  | arr items => some items
  | _ => none

def str? : Json → Option String
  | str value => some value
  | _ => none

def bool? : Json → Option Bool
  | bool value => some value
  | _ => none

def nat? : Json → Option Nat
  | num (.int value) => if 0 ≤ value then some value.toNat else none
  | _ => none

def float? : Json → Option Float
  | num value => some value.toFloat
  | _ => none

def member? (value : Json) (name : String) : Option Json :=
  value.obj?.bind fun members => SortedMap.get? members name

end Json

end ReleaseDrift
