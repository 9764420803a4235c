import ReleaseDrift.Decimal.Shortest
import ReleaseDrift.Json.Basic

/-!
Writing JSON text: strings with the few escapes that are needed, numbers with the fewest
digits, and documents with one item to a line.
-/

namespace ReleaseDrift

open Decimal (Scientific)

/-- Digits with a point or an exponent. A number with at most sixteen digits before the point
    and less than five zeros after it is written out, others with one digit before the point. -/
def Decimal.Scientific.text (decimal : Scientific) : String :=
  let digits := Nat.toDigits 10 decimal.digits
  let point : Int := digits.length + decimal.exponent
  let body :=
    if 0 ≤ decimal.exponent ∧ point ≤ 16 then
      digits ++ List.replicate decimal.exponent.toNat '0' ++ ".0".toList
    else if 0 < point ∧ point ≤ 16 then
      digits.take point.toNat ++ '.' :: digits.drop point.toNat
    else if -5 < point ∧ point ≤ 0 then
      "0.".toList ++ List.replicate (-point).toNat '0' ++ digits
    else
      let exponent := point - 1
      let mark := if exponent < 0 then "e-".toList else "e+".toList
      digits.take 1 ++ (if digits.length = 1 then [] else '.' :: digits.drop 1) ++ mark ++
        Nat.toDigits 10 exponent.natAbs
  String.ofList body

namespace Number

def text : Number → String
  | int value => toString value
  | real value =>
      if value.isNaN || value.isInf then "null"
      else
        let sign := if value.toBits.toNat ≥ Nat.pow 2 63 then "-" else ""
        if value == 0 then sign ++ "0.0" else sign ++ (Decimal.shortest value).text

end Number

namespace Json

def hexDigitChar (n : Nat) : Char := if n < 10 then Char.ofNat (48 + n) else Char.ofNat (87 + n)

def escape (c : Char) : List Char :=
  if c = '"' then ['\\', '"']
  else if c = '\\' then ['\\', '\\']
  else if c = '\n' then ['\\', 'n']
  else if c = '\r' then ['\\', 'r']
  else if c = '\t' then ['\\', 't']
  else if c = '\x08' then ['\\', 'b']
  else if c = '\x0c' then ['\\', 'f']
  else if c.toNat < 0x20 then
    ['\\', 'u', '0', '0', hexDigitChar (c.toNat / 16), hexDigitChar (c.toNat % 16)]
  else [c]

def quote (s : String) : String := String.ofList ('"' :: s.toList.flatMap escape ++ ['"'])

def indentation (level : Nat) : String := String.ofList (List.replicate (2 * level) ' ')

def block (left right : String) (level : Nat) (items : List String) : String :=
  if items.isEmpty then left ++ right
  else
    left ++ "\n" ++ String.intercalate ",\n" (items.map (indentation (level + 1) ++ ·)) ++ "\n" ++
      indentation level ++ right

def prettyAt (level : Nat) : Json → String
  | null => "null"
  | bool b => if b then "true" else "false"
  | num n => n.text
  | str s => quote s
  | arr items => block "[" "]" level (prettyItems (level + 1) items)
  | obj members => block "\x7b" "\x7d" level (prettyMembers (level + 1) members)
where
  prettyItems (level : Nat) : List Json → List String
    | [] => []
    | item :: rest => prettyAt level item :: prettyItems level rest
  prettyMembers (level : Nat) : List (String × Json) → List String
    | [] => []
    | (name, value) :: rest =>
        (quote name ++ ": " ++ prettyAt level value) :: prettyMembers level rest

def pretty (value : Json) : String := prettyAt 0 value

end Json

end ReleaseDrift
