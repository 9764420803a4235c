import ReleaseDrift.Toml.Scalar
import ReleaseDrift.Toml.Table

/-!
Reading TOML documents, line by line.
-/

namespace ReleaseDrift.Toml

open Text

def isBare (c : Char) : Bool := isAsciiLetter c || isDigit c || c == '-' || c == '_'

def name? : List Char → Option (String × List Char)
  | '"' :: rest => (basic? (rest.length + 1) rest).map fun (text, rest) => (.ofList text, rest)
  | '\'' :: rest => (literal? rest).map fun (text, rest) => (.ofList text, rest)
  | s =>
      let text := s.takeWhile isBare
      if text.isEmpty then none else some (.ofList text, s.dropWhile isBare)

def names? : (fuel : Nat) → List Char → Option (List String × List Char)
  | 0, _ => none
  | fuel + 1, s =>
      (name? (skipBlanks s)).bind fun (name, rest) =>
        match skipBlanks rest with
        | '.' :: rest => (names? fuel rest).map fun (names, rest) => (name :: names, rest)
        | rest => some ([name], rest)

/-- How many names a key may have, and how deep arrays and inline tables may be nested. -/
def maxLevels : Nat := 79

def key? (s : List Char) : Option (Key × List Char) := do
  let (names, rest) ← names? (s.length + 1) s
  if names.length > maxLevels then none
  let name ← names.getLast?
  return (⟨names.dropLast, name⟩, rest)

mutual

def value? : (fuel levels : Nat) → List Char → Option (Value × List Char)
  | 0, _, _ => none
  | fuel + 1, levels, s =>
      match s with
      | '[' :: rest =>
          match levels with
          | 0 => none
          | levels + 1 => (items? fuel levels rest).map fun (items, rest) => (.arr items, rest)
      | '\x7b' :: rest =>
          match levels with
          | 0 => none
          | levels + 1 =>
              match skipBlanks rest with
              | '\x7d' :: rest => some (.table [], rest)
              | rest => do
                  let (pairs, rest) ← pairs? fuel levels rest
                  return (← tableOfPairs? pairs, rest)
      | c :: _ =>
          if c == '"' || c == '\'' then
            (string? s).map fun (text, rest) => (.str (.ofList text), rest)
          else moment? s <|> number? s <|> bool? s
      | [] => none

def items? : (fuel levels : Nat) → List Char → Option (List Value × List Char)
  | 0, _, _ => none
  | fuel + 1, levels, s =>
      match skipLines (s.length + 1) s with
      | ']' :: rest => some ([], rest)
      | rest =>
          (value? fuel levels rest).bind fun (item, rest) =>
            match skipLines (rest.length + 1) rest with
            | ']' :: rest => some ([item], rest)
            | ',' :: rest =>
                (items? fuel levels rest).map fun (items, rest) => (item :: items, rest)
            | _ => none

def pairs? : (fuel levels : Nat) → List Char → Option (List (Key × Value) × List Char)
  | 0, _, _ => none
  | fuel + 1, levels, s => do
      let (key, rest) ← key? s
      let rest ← after? ['='] rest
      let (value, rest) ← value? fuel levels (skipBlanks rest)
      match skipBlanks rest with
      | '\x7d' :: rest => some ([(key, value)], rest)
      | ',' :: rest =>
          (pairs? fuel levels rest).map fun (pairs, rest) => ((key, value) :: pairs, rest)
      | _ => none

end

inductive Statement where
  | pair (key : Key) (value : Value)
  | table (key : Key)
  | arrayTable (key : Key)
  deriving Repr

def statement? : List Char → Option (Statement × List Char)
  | '[' :: '[' :: rest => do
      let (key, rest) ← key? rest
      return (.arrayTable key, ← after? [']', ']'] rest)
  | '[' :: rest => do
      let (key, rest) ← key? rest
      return (.table key, ← after? [']'] rest)
  | s => do
      let (key, rest) ← key? s
      let rest ← after? ['='] rest
      let (value, rest) ← value? (2 * rest.length + 2) maxLevels (skipBlanks rest)
      return (.pair key value, rest)

def statements? : (fuel : Nat) → List Char → Option (List Statement)
  | 0, _ => none
  | fuel + 1, s =>
      match skipBlanks s with
      | [] => some []
      | c :: rest =>
          if c == '#' || c == '\n' || c == '\r' then
            (finishLine? (c :: rest)).bind (statements? fuel)
          else do
            let (statement, rest) ← statement? (c :: rest)
            let statements ← statements? fuel (← finishLine? rest)
            return statement :: statements

structure Draft where
  current : List String := []
  members : Members := []

def Draft.push? (draft : Draft) : Statement → Option Draft
  | .pair key value =>
      (draft.members.within? (Members.put? key.path key.name value) draft.current).map
        fun members => { draft with members }
  | .table key =>
      (draft.members.define? key).map fun members => { current := key.names, members }
  | .arrayTable key =>
      (draft.members.extend? key).map fun members => { current := key.names, members }

/-- The members of a whole document. A byte order mark may stand before it. -/
def ofText? (s : List Char) : Option (List (String × Value)) := do
  let s := match s with
    | '\ufeff' :: rest => rest
    | _ => s
  let statements ← statements? (s.length + 1) s
  let draft ← statements.foldlM Draft.push? {}
  return draft.members.toValues

end ReleaseDrift.Toml
