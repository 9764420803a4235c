import ReleaseDrift.Json.Reader

/-!
Reading a record from its written form: an object with named members or an array in field
order. A field may have several names, and is given at most once under any of them.
-/

namespace ReleaseDrift.Json.Written

def field? (members : List (Option String × Written)) (names : List String) :
    Option (Option Written) :=
  match members.filter fun member => member.1.any (names.contains ·) with
  | [] => some none
  | [(_, value)] => some (some value)
  | _ => none

/-- The values of the fields, each of which may be missing. Members with other names are
    passed over; an array may end early but not have too many items. -/
def fields? (names : List (List String)) : Written → Option (List (Option Written))
  | obj members =>
      if members.all (·.1.isSome) then names.mapM (field? members) else none
  | arr items =>
      if items.length ≤ names.length then
        some (items.map some ++ List.replicate (names.length - items.length) none)
      else none
  | _ => none

def text? : Written → Option String
  | str s => s
  | _ => none

def optionalText? : Written → Option (Option String)
  | null => some none
  | str s => s.map some
  | _ => none

def count? : Written → Option Nat
  | num (some (.int value)) =>
      if 0 ≤ value ∧ value < (Nat.pow 2 32 : Int) then some value.toNat else none
  | _ => none

def texts? : Written → Option (List String)
  | arr items => items.mapM text?
  | _ => none

end ReleaseDrift.Json.Written
