import ReleaseDrift.Impact.Item
import ReleaseDrift.Sorted
import ReleaseDrift.Text.WordChar

/-!
Enum values in a patch. The values of an enum stand in the `case` arms of its `Parse`
function; arms of any other function are no values.
-/

namespace ReleaseDrift.EnumValues

open Text

def hunkContext? (line : List Char) : Option (List Char) :=
  (after? "@@ ".toList line).bind fun rest =>
    if (rest.takeWhile (· != '@')).getLast? == some ' ' then
      (after? "@@".toList (rest.dropWhile (· != '@'))).map fun context =>
        match context with
        | ' ' :: context => context
        | context => context
    else none

def opensParseFunction (s : List Char) : Bool :=
  match after? "func".toList s with
  | some (c :: rest) =>
      isBlank c &&
        match after? "Parse".toList (trimStart rest) with
        | some (d :: rest) => 'A' ≤ d && d ≤ 'Z' && (rest.dropWhile isWord).head? == some '('
        | _ => false
  | _ => false

def quoted? : List Char → Option (List Char × List Char)
  | '"' :: rest =>
      match rest.dropWhile (· != '"') with
      | _ :: tail => some (rest.takeWhile (· != '"'), tail)
      | [] => none
  | _ => none

def quotedList? : (fuel : Nat) → List Char → Option (List (List Char) × List Char)
  | 0, _ => none
  | fuel + 1, s =>
      (quoted? s).bind fun (value, rest) =>
        match trimStart rest with
        | ',' :: tail =>
            (quotedList? fuel (trimStart tail)).map fun (values, rest) => (value :: values, rest)
        | _ => some ([value], rest)

def arm? (line : List Char) : Option (Direction × List (List Char)) := do
  let (direction, rest) ← match line with
    | '+' :: rest => some (Direction.added, rest)
    | '-' :: rest => some (Direction.removed, rest)
    | _ => none
  let rest ← after? "case".toList (trimStart rest)
  if !rest.head?.any isBlank then none
  let rest := trimStart rest
  let (values, rest) ← quotedList? rest.length rest
  if (trimStart rest).head? = some ':' then some (direction, values) else none

/-- The line without its first byte; a longer first character leaves nothing. -/
def body (line : List Char) : List Char :=
  match line with
  | c :: rest => if c.utf8Size = 1 then trimStart rest else []
  | [] => []

structure Scan where
  inside : Bool := false
  added : List String := []
  removed : List String := []
  deriving Repr, DecidableEq

def Scan.step (scan : Scan) (line : List Char) : Scan :=
  if startsWith "+++".toList line || startsWith "---".toList line then scan
  else
    match hunkContext? line with
    | some context => { scan with inside := opensParseFunction (trimStart context) }
    | none =>
        if startsWith "func ".toList (body line) then
          { scan with inside := opensParseFunction (body line) }
        else if !scan.inside then scan
        else
          match arm? line with
          | some (.added, values) =>
              { scan with added := SortedSet.insertAll (values.map String.ofList) scan.added }
          | some (.removed, values) =>
              { scan with removed := SortedSet.insertAll (values.map String.ofList) scan.removed }
          | none => scan

/-- The values that a patch adds and those that it removes. A value on both sides has moved and
    counts on neither. -/
def ofPatch (patch : List Char) : List String × List String :=
  let scan := (lines patch).foldl Scan.step {}
  (scan.added.filter fun value => !scan.removed.contains value,
    scan.removed.filter fun value => !scan.added.contains value)

end ReleaseDrift.EnumValues

namespace ReleaseDrift

structure EnumChange where
  path : String
  model : String
  added : List String
  removed : List String
  deriving Repr, DecidableEq

namespace EnumChange

def level? (change : EnumChange) : Option Level :=
  if !change.removed.isEmpty then some .enumRemoved
  else if !change.added.isEmpty then some .enumAdded
  else none

def describe (change : EnumChange) : String :=
  let part (label : String) (values : List String) : List String :=
    if values.isEmpty then [] else [label ++ ": " ++ ", ".intercalate values]
  "; ".intercalate (part "removed" change.removed ++ part "added" change.added)

def classify? (change : EnumChange) : Option ClassifiedItem :=
  change.level?.map fun level =>
    { model := change.model
      name := change.model
      kind := .enum
      level
      reason :=
        if level = .enumRemoved then "enum values removed from used model"
        else "enum values added to used model"
      detail := some change.describe }

def ofFile? (file : ChangedFile) : Option EnumChange :=
  file.patch.bind fun patch =>
    let (added, removed) := EnumValues.ofPatch patch.toList
    if added.isEmpty && removed.isEmpty then none
    else some { path := file.path, model := ModelName.ofPath file.path, added, removed }

end EnumChange

end ReleaseDrift
