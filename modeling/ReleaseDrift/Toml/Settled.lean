import ReleaseDrift.Sorted
import ReleaseDrift.Toml.Scalar

/-!
What the values of a document come to. The names of a table are sorted, and a table that poses
as a date or a time is one.
-/

namespace ReleaseDrift.Toml

def wideOffset? : List Char → Option (List Char)
  | [] => some []
  | c :: rest =>
      if c == 'Z' || c == 'z' then some rest
      else if c == '+' || c == '-' then do
        let (hours, rest) ← field? 2 0 99 rest
        let rest ← Text.after? [':'] rest
        let (minutes, rest) ← field? 2 0 99 rest
        if hours * 60 + minutes ≤ 24 * 60 then some rest else none
      else none

/-- Is the text a date, a time of day, or both? It is read more widely than a value of a document:
    a day has an hour 24, and an offset may be a whole day. -/
def isMoment (s : List Char) : Bool :=
  let rest := match s with
    | _ :: _ :: ':' :: _ => time? 24 s
    | _ =>
        match date? s with
        | some (c :: tail) =>
            if c == 'T' || c == 't' || c == ' ' then (time? 24 tail).bind wideOffset?
            else some (c :: tail)
        | rest => rest
  rest == some []

def momentName : String := "$__toml_private_datetime"

mutual

/-- A table whose first name is that of a moment is one, and has to hold its text; what else it
    holds does not count. -/
def Value.settled? : Value → Option Value
  | .arr items => (settledItems? items).map .arr
  | .table [] => some (.table [])
  | .table ((name, value) :: rest) =>
      if name = momentName then
        match value with
        | .str text => if isMoment text.toList then some (.moment text) else none
        | _ => none
      else
        (value.settled?).bind fun value =>
          (settledMembers? rest).map fun rest => .table (SortedMap.ofList ((name, value) :: rest))
  | value => some value

def settledItems? : List Value → Option (List Value)
  | [] => some []
  | item :: rest =>
      item.settled?.bind fun item => (settledItems? rest).map fun rest => item :: rest

def settledMembers? : List (String × Value) → Option (List (String × Value))
  | [] => some []
  | (name, value) :: rest =>
      value.settled?.bind fun value =>
        (settledMembers? rest).map fun rest => (name, value) :: rest

end

def settle? (members : List (String × Value)) : Option (List (String × Value)) :=
  (settledMembers? members).map SortedMap.ofList

end ReleaseDrift.Toml
