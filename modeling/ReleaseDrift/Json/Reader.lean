import ReleaseDrift.Json.Basic
import ReleaseDrift.Text.Basic

/-!
Reading JSON text. The text is first read as it is written: members stay in their order,
names may repeat, and a scalar that denotes no value (a number out of range, half of a
surrogate pair) is noted as such. What of that matters is decided by whoever takes the
written value: a part that nobody looks at may hold anything well formed.
-/

namespace ReleaseDrift.Json

open Text

inductive Written where
  | null
  | bool (value : Bool)
  | num (value : Option Number)
  | str (value : Option String)
  | arr (items : List Written)
  | obj (members : List (Option String × Written))
  deriving Repr

namespace Written

def skipSpace (s : List Char) : List Char :=
  s.dropWhile fun c => c == ' ' || c == '\n' || c == '\t' || c == '\r'

def hexDigit? (c : Char) : Option Nat :=
  if '0' ≤ c ∧ c ≤ '9' then some (c.toNat - '0'.toNat)
  else if 'a' ≤ c ∧ c ≤ 'f' then some (c.toNat - 'a'.toNat + 10)
  else if 'A' ≤ c ∧ c ≤ 'F' then some (c.toNat - 'A'.toNat + 10)
  else none

def hexUnit? (a b c d : Char) : Option Nat := do
  let a ← hexDigit? a
  let b ← hexDigit? b
  let c ← hexDigit? c
  let d ← hexDigit? d
  return ((a * 16 + b) * 16 + c) * 16 + d

inductive Unit where
  | char (c : Char)
  | code (n : Nat)

def escaped? : Char → Option Char
  | '"' => some '"'
  | '\\' => some '\\'
  | '/' => some '/'
  | 'b' => some '\x08'
  | 'f' => some '\x0c'
  | 'n' => some '\n'
  | 'r' => some '\r'
  | 't' => some '\t'
  | _ => none

def units? : List Char → Option (List Unit × List Char)
  | [] => none
  | '"' :: rest => some ([], rest)
  | '\\' :: 'u' :: a :: b :: c :: d :: rest =>
      (hexUnit? a b c d).bind fun n =>
        (units? rest).map fun (units, rest) => (.code n :: units, rest)
  | '\\' :: c :: rest =>
      (escaped? c).bind fun c =>
        (units? rest).map fun (units, rest) => (.char c :: units, rest)
  | c :: rest =>
      if c.toNat < 0x20 then none
      else (units? rest).map fun (units, rest) => (.char c :: units, rest)

/-- Joins surrogate pairs; half a pair denotes nothing. -/
def joinUnits? : List Unit → Option (List Char)
  | [] => some []
  | .char c :: rest => (joinUnits? rest).map (c :: ·)
  | .code high :: .code low :: rest =>
      if 0xD800 ≤ high ∧ high < 0xDC00 then
        if 0xDC00 ≤ low ∧ low < 0xE000 then
          let n := 0x10000 + (high - 0xD800) * 0x400 + (low - 0xDC00)
          (joinUnits? rest).map (Char.ofNat n :: ·)
        else none
      else if 0xDC00 ≤ high ∧ high < 0xE000 then none
      else (joinUnits? (.code low :: rest)).map (Char.ofNat high :: ·)
  | .code n :: rest =>
      if 0xD800 ≤ n ∧ n < 0xE000 then none else (joinUnits? rest).map (Char.ofNat n :: ·)

def string? (s : List Char) : Option (Option String × List Char) :=
  (units? s).map fun (units, rest) => ((joinUnits? units).map String.ofList, rest)

def maxSignificand : Nat := Nat.pow 2 64 - 1

structure Digits where
  significand : Nat := 0
  exponent : Int := 0
  full : Bool := false

def digitValue (c : Char) : Nat := c.toNat - '0'.toNat

/-- A digit of the integer part. Once the significand is full, digits only raise the exponent. -/
def Digits.pushInt (digits : Digits) (c : Char) : Digits :=
  let next := digits.significand * 10 + digitValue c
  if digits.full || next > maxSignificand then
    { digits with exponent := digits.exponent + 1, full := true }
  else { digits with significand := next }

/-- A digit of the fraction. From the first one that does not fit, digits are dropped. -/
def Digits.pushFraction (digits : Digits) (c : Char) : Digits :=
  let next := digits.significand * 10 + digitValue c
  if digits.full || next > maxSignificand then { digits with full := true }
  else { digits with significand := next, exponent := digits.exponent - 1 }

def powerOfTen (n : Nat) : Float := Float.ofScientific 1 false n

def scale? (x : Float) (exponent : Int) : (steps : Nat) → Option Float
  | 0 => some x
  | steps + 1 =>
      if exponent.natAbs ≤ 308 then
        if 0 ≤ exponent then
          let y := x * powerOfTen exponent.toNat
          if y.isInf then none else some y
        else some (x / powerOfTen exponent.natAbs)
      else if x == 0 then some x
      else if 0 ≤ exponent then none
      else scale? (x / powerOfTen 308) (exponent + 308) steps

def real? (negative : Bool) (digits : Digits) (exponent : Int) : Option Number :=
  (scale? (Float.ofScientific digits.significand false 0) (digits.exponent + exponent) 8).map
    fun x => .real (if negative then -x else x)

/-- An integer, or its rounding when it has a sign and is zero or when 64 bits are too few. -/
def integer? (negative : Bool) (digits : Digits) : Option Number :=
  if digits.full then real? negative digits 0
  else if !negative then some (.int digits.significand)
  else if digits.significand = 0 ∨ digits.significand > Nat.pow 2 63 then real? negative digits 0
  else some (.int (-(digits.significand : Int)))

def maxExponent : Nat := Nat.pow 2 31 - 1

def exponent? (s : List Char) : Option (Int × List Char) :=
  let (negative, rest) := match s with
    | '+' :: rest => (false, rest)
    | '-' :: rest => (true, rest)
    | _ => (false, s)
  let digits := rest.takeWhile isDigit
  if digits = [] then none
  else
    let n := digits.foldl (fun n c => n * 10 + digitValue c) 0
    some (if negative then -(n : Int) else n, rest.dropWhile isDigit)

def finish? (negative : Bool) (digits : Digits) (exponent : Int) : Option Number :=
  if exponent.natAbs ≤ maxExponent then real? negative digits exponent
  else if digits.significand ≠ 0 ∧ 0 ≤ exponent then none
  else some (.real (if negative then -0.0 else 0.0))

def unsigned? (negative : Bool) (s : List Char) : Option (Option Number × List Char) := do
  let (whole, rest) ← match s with
    | '0' :: rest => if rest.head?.any isDigit then none else some (['0'], rest)
    | c :: rest =>
        if isDigit c then some (c :: rest.takeWhile isDigit, rest.dropWhile isDigit) else none
    | [] => none
  let digits : Digits := whole.foldl .pushInt {}
  let (digits, rest, isReal) ← match rest with
    | '.' :: rest =>
        let fraction := rest.takeWhile isDigit
        if fraction = [] then none
        else
          some (fraction.foldl .pushFraction { digits with full := false },
            rest.dropWhile isDigit, true)
    | _ => some (digits, rest, false)
  match rest with
  | c :: tail =>
      if c == 'e' || c == 'E' then
        let (exponent, rest) ← exponent? tail
        return (finish? negative digits exponent, rest)
      else return (if isReal then real? negative digits 0 else integer? negative digits, rest)
  | [] => return (if isReal then real? negative digits 0 else integer? negative digits, rest)

def number? : List Char → Option (Option Number × List Char)
  | '-' :: rest => unsigned? true rest
  | s => unsigned? false s

mutual

def value? : (fuel : Nat) → List Char → Option (Written × List Char)
  | 0, _ => none
  | fuel + 1, s =>
      match skipSpace s with
      | 'n' :: rest => (after? "ull".toList rest).map (null, ·)
      | 't' :: rest => (after? "rue".toList rest).map (bool true, ·)
      | 'f' :: rest => (after? "alse".toList rest).map (bool false, ·)
      | '"' :: rest => (string? rest).map fun (text, rest) => (str text, rest)
      | '[' :: rest =>
          match skipSpace rest with
          | ']' :: rest => some (arr [], rest)
          | rest => (items? fuel rest).map fun (items, rest) => (arr items, rest)
      | '\x7b' :: rest =>
          match skipSpace rest with
          | '\x7d' :: rest => some (obj [], rest)
          | rest => (members? fuel rest).map fun (members, rest) => (obj members, rest)
      | rest => (number? rest).map fun (number, rest) => (num number, rest)

def items? : (fuel : Nat) → List Char → Option (List Written × List Char)
  | 0, _ => none
  | fuel + 1, s =>
      (value? fuel s).bind fun (item, rest) =>
        match skipSpace rest with
        | ']' :: rest => some ([item], rest)
        | ',' :: rest => (items? fuel rest).map fun (items, rest) => (item :: items, rest)
        | _ => none

def members? : (fuel : Nat) → List Char → Option (List (Option String × Written) × List Char)
  | 0, _ => none
  | fuel + 1, s =>
      match skipSpace s with
      | '"' :: rest =>
          (string? rest).bind fun (name, rest) =>
            match skipSpace rest with
            | ':' :: rest =>
                (value? fuel rest).bind fun (value, rest) =>
                  match skipSpace rest with
                  | '\x7d' :: rest => some ([(name, value)], rest)
                  | ',' :: rest =>
                      (members? fuel rest).map fun (members, rest) =>
                        ((name, value) :: members, rest)
                  | _ => none
            | _ => none
      | _ => none

end

def ofText? (s : List Char) : Option Written :=
  match value? (2 * s.length + 2) s with
  | some (value, rest) => if skipSpace rest = [] then some value else none
  | none => none

def depth : Written → Nat
  | arr items => depthItems items + 1
  | obj members => depthMembers members + 1
  | _ => 0
where
  depthItems : List Written → Nat
    | [] => 0
    | item :: rest => max item.depth (depthItems rest)
  depthMembers : List (Option String × Written) → Nat
    | [] => 0
    | (_, value) :: rest => max value.depth (depthMembers rest)

/-- The value that is written. Of the values under one name the last counts. -/
def value : Written → Option Json
  | null => some .null
  | bool b => some (.bool b)
  | num n => n.map .num
  | str s => s.map .str
  | arr items => (valueItems items).map .arr
  | obj members => (valueMembers members).map fun members => .obj (SortedMap.ofList members)
where
  valueItems : List Written → Option (List Json)
    | [] => some []
    | item :: rest => do
        let item ← item.value
        let rest ← valueItems rest
        return item :: rest
  valueMembers : List (Option String × Written) → Option (List (String × Json))
    | [] => some []
    | (name, member) :: rest => do
        let name ← name
        let member ← member.value
        let rest ← valueMembers rest
        return (name, member) :: rest

def maxDepth : Nat := 127

def json? (written : Written) : Option Json :=
  if written.depth ≤ maxDepth then written.value else none

def ofJson : Json → Written
  | .null => null
  | .bool b => bool b
  | .num n => num (some n)
  | .str s => str (some s)
  | .arr items => arr (ofItems items)
  | .obj members => obj (ofMembers members)
where
  ofItems : List Json → List Written
    | [] => []
    | item :: rest => ofJson item :: ofItems rest
  ofMembers : List (String × Json) → List (Option String × Written)
    | [] => []
    | (name, value) :: rest => (some name, ofJson value) :: ofMembers rest

end Written

def ofText? (s : List Char) : Option Json := (Written.ofText? s).bind Written.json?

end ReleaseDrift.Json
