import ReleaseDrift.Decimal.Nearest
import ReleaseDrift.Json.Reader
import ReleaseDrift.Toml.Basic

/-!
Reading TOML scalars, comments and line ends. Every reader returns what it read and the rest of
the text.
-/

namespace ReleaseDrift.Toml

open Text

def isBlank (c : Char) : Bool := c == ' ' || c == '\t'

def isPrintable (c : Char) : Bool :=
  c == '\t' || (0x20 ≤ c.toNat && c.toNat ≤ 0x7E) || 0x80 ≤ c.toNat

def skipBlanks (s : List Char) : List Char := s.dropWhile isBlank

def newline? : List Char → Option (List Char)
  | '\n' :: rest => some rest
  | '\r' :: '\n' :: rest => some rest
  | _ => none

def skipComment : List Char → List Char
  | '#' :: rest => rest.dropWhile isPrintable
  | s => s

def finishLine? (s : List Char) : Option (List Char) :=
  match skipComment (skipBlanks s) with
  | [] => some []
  | rest => newline? rest

def skipLines : (fuel : Nat) → List Char → List Char
  | 0, s => s
  | fuel + 1, s =>
      let rest := skipBlanks s
      match newline? (skipComment rest) with
      | some next => skipLines fuel next
      | none => rest

/-! ## Strings -/

def simpleEscape? : Char → Option Char
  | 'b' => some '\x08'
  | 't' => some '\t'
  | 'n' => some '\n'
  | 'f' => some '\x0c'
  | 'r' => some '\r'
  | '"' => some '"'
  | '\\' => some '\\'
  | _ => none

def codeLength? : Char → Option Nat
  | 'u' => some 4
  | 'U' => some 8
  | _ => none

def escape? : List Char → Option (Char × List Char)
  | [] => none
  | letter :: rest =>
      match simpleEscape? letter with
      | some c => some (c, rest)
      | none => do
          let length ← codeLength? letter
          let digits := rest.take length
          if digits.length < length then none
          let n ← digits.foldlM (fun n c => (Json.Written.hexDigit? c).map (n * 16 + ·)) 0
          if (0xD800 ≤ n ∧ n ≤ 0xDFFF) ∨ n > 0x10FFFF then none
          return (Char.ofNat n, rest.drop length)

def basic? : (fuel : Nat) → List Char → Option (List Char × List Char)
  | 0, _ => none
  | _ + 1, [] => none
  | fuel + 1, c :: rest =>
      if c == '"' then some ([], rest)
      else if c == '\\' then
        (escape? rest).bind fun (c, rest) =>
          (basic? fuel rest).map fun (text, rest) => (c :: text, rest)
      else if isPrintable c then (basic? fuel rest).map fun (text, rest) => (c :: text, rest)
      else none

def literal? (s : List Char) : Option (List Char × List Char) :=
  let isText (c : Char) : Bool := isPrintable c && c != '\''
  match s.dropWhile isText with
  | '\'' :: rest => some (s.takeWhile isText, rest)
  | _ => none

/-- A backslash at the end of a line is dropped with the blanks and line breaks after it. -/
def joinedLine? (s : List Char) : Option (List Char) :=
  (newline? (skipBlanks s)).map fun rest => skipLayout (rest.length + 1) rest
where
  skipLayout : (fuel : Nat) → List Char → List Char
    | 0, s => s
    | fuel + 1, s =>
        match newline? (skipBlanks s) with
        | some rest => skipLayout fuel rest
        | none => skipBlanks s

/-- The rest of a string in several lines. Up to two quotes may stand before those that end it,
    and a line break counts as a line feed. -/
def multiline? (quote : Char) (escapes : Bool) : (fuel : Nat) → List Char →
    Option (List Char × List Char)
  | 0, _ => none
  | _ + 1, [] => none
  | fuel + 1, c :: rest =>
      if c == quote && rest.take 2 == [quote, quote] then
        let more := min 2 ((rest.drop 2).takeWhile (· == quote)).length
        some (List.replicate more quote, rest.drop (2 + more))
      else if escapes && c == '\\' then
        match joinedLine? rest with
        | some rest => multiline? quote escapes fuel rest
        | none =>
            (escape? rest).bind fun (c, rest) =>
              (multiline? quote escapes fuel rest).map fun (text, rest) => (c :: text, rest)
      else
        match newline? (c :: rest) with
        | some rest =>
            (multiline? quote escapes fuel rest).map fun (text, rest) => ('\n' :: text, rest)
        | none =>
            if isPrintable c then
              (multiline? quote escapes fuel rest).map fun (text, rest) => (c :: text, rest)
            else none

def dropNewline (s : List Char) : List Char := (newline? s).getD s

def string? : List Char → Option (List Char × List Char)
  | '"' :: '"' :: '"' :: rest => multiline? '"' true (rest.length + 1) (dropNewline rest)
  | '"' :: rest => basic? (rest.length + 1) rest
  | '\'' :: '\'' :: '\'' :: rest => multiline? '\'' false (rest.length + 1) (dropNewline rest)
  | '\'' :: rest => literal? rest
  | _ => none

/-! ## Numbers -/

def digits? (p : Char → Bool) : List Char → Option (List Char × List Char)
  | c :: rest => if p c then (more? rest).map fun (digits, rest) => (c :: digits, rest) else none
  | [] => none
where
  more? : List Char → Option (List Char × List Char)
    | '_' :: c :: rest =>
        if p c then (more? rest).map fun (digits, rest) => (c :: digits, rest) else none
    | ['_'] => none
    | c :: rest =>
        if p c then (more? rest).map fun (digits, rest) => (c :: digits, rest)
        else some ([], c :: rest)
    | [] => some ([], [])

def sign : List Char → Bool × List Char
  | '-' :: rest => (true, rest)
  | '+' :: rest => (false, rest)
  | s => (false, s)

def digitsValue (base : Nat) (digits : List Char) : Nat :=
  digits.foldl (fun n c => n * base + (Json.Written.hexDigit? c).getD 0) 0

def int? (n : Int) : Option Value :=
  if -(Nat.pow 2 63 : Int) ≤ n ∧ n < (Nat.pow 2 63 : Int) then some (.int n) else none

def radix? (base : Nat) (s : List Char) : Option (Value × List Char) := do
  let isDigit (c : Char) : Bool := (Json.Written.hexDigit? c).any (· < base)
  let (digits, rest) ← digits? isDigit s
  return (← int? (digitsValue base digits), rest)

def whole? : List Char → Option (List Char × List Char)
  | '0' :: rest => some (['0'], rest)
  | s => digits? isDigit s

def fraction? : List Char → Option (Option (List Char) × List Char)
  | '.' :: rest => (digits? isDigit rest).map fun (digits, rest) => (some digits, rest)
  | s => some (none, s)

def exponent? : List Char → Option (Option Int × List Char)
  | c :: rest =>
      if c == 'e' || c == 'E' then
        let (negative, rest) := sign rest
        (digits? isDigit rest).map fun (digits, rest) =>
          let n := digitsValue 10 digits
          (some (if negative then -(n : Int) else n), rest)
      else some (none, c :: rest)
  | [] => some (none, [])

/-- A number with a fraction or an exponent. One that is too large is refused, one that is too
    small is infinite. -/
def float? (negative : Bool) (whole fraction : List Char) (exponent : Int) : Option Value :=
  match Decimal.nearest? (digitsValue 10 (whole ++ fraction)) (exponent - fraction.length) with
  | some x => some (.float (if negative then -x else x))
  | none => if negative then some (.float (-1.0 / 0.0)) else none

def decimal? (s : List Char) : Option (Value × List Char) := do
  let (negative, body) := sign s
  let (whole, rest) ← whole? body
  let (fraction, rest) ← fraction? rest
  let (exponent, rest) ← exponent? rest
  if fraction.isNone ∧ exponent.isNone then
    let n := digitsValue 10 whole
    return (← int? (if negative then -(n : Int) else n), rest)
  else return (← float? negative whole (fraction.getD []) (exponent.getD 0), rest)

def number? (s : List Char) : Option (Value × List Char) :=
  let (negative, body) := sign s
  match s, body with
  | '0' :: 'x' :: rest, _ => radix? 16 rest
  | '0' :: 'o' :: rest, _ => radix? 8 rest
  | '0' :: 'b' :: rest, _ => radix? 2 rest
  | _, 'i' :: 'n' :: 'f' :: rest =>
      some (.float (if negative then -1.0 / 0.0 else 1.0 / 0.0), rest)
  | _, 'n' :: 'a' :: 'n' :: rest => some (.float (0.0 / 0.0), rest)
  | _, _ => decimal? s

/-! ## Dates and times -/

def field? (length lowest highest : Nat) (s : List Char) : Option (Nat × List Char) :=
  let digits := s.take length
  let n := digitsValue 10 digits
  if digits.length = length ∧ digits.all isDigit ∧ lowest ≤ n ∧ n ≤ highest then
    some (n, s.drop length)
  else none

def isLeapYear (year : Nat) : Bool := year % 4 = 0 ∧ (year % 100 ≠ 0 ∨ year % 400 = 0)

def daysInMonth (year month : Nat) : Nat :=
  if month = 2 then if isLeapYear year then 29 else 28
  else if [4, 6, 9, 11].contains month then 30
  else 31

def date? (s : List Char) : Option (List Char) := do
  let (year, rest) ← field? 4 0 9999 s
  let rest ← after? ['-'] rest
  let (month, rest) ← field? 2 1 12 rest
  let rest ← after? ['-'] rest
  let (_, rest) ← field? 2 1 (daysInMonth year month) rest
  return rest

/-- The text after a time of day. A second may be a leap second. -/
def time? (lastHour : Nat) (s : List Char) : Option (List Char) := do
  let (_, rest) ← field? 2 0 lastHour s
  let rest ← after? [':'] rest
  let (_, rest) ← field? 2 0 59 rest
  let rest ← after? [':'] rest
  let (_, rest) ← field? 2 0 60 rest
  match rest with
  | '.' :: digits =>
      if digits.head?.any isDigit then some (digits.dropWhile isDigit) else some rest
  | _ => some rest

def offset? : List Char → Option (List Char)
  | c :: rest =>
      if c == 'Z' || c == 'z' then some rest
      else if c == '+' || c == '-' then do
        let (_, rest) ← field? 2 0 23 rest
        let rest ← after? [':'] rest
        let (_, rest) ← field? 2 0 59 rest
        return rest
      else none
  | [] => none

def afterMoment? (s : List Char) : Option (List Char) :=
  match date? s with
  | some rest =>
      match rest with
      | c :: tail =>
          if c == 'T' || c == 't' || c == ' ' then
            match time? 23 tail with
            | some rest => some ((offset? rest).getD rest)
            | none => some (c :: tail)
          else some (c :: tail)
      | [] => some []
  | none => time? 23 s

def moment? (s : List Char) : Option (Value × List Char) :=
  (afterMoment? s).map fun rest =>
    (.moment (String.ofList (s.take (s.length - rest.length))), rest)

def bool? (s : List Char) : Option (Value × List Char) :=
  match after? "true".toList s with
  | some rest => some (.bool true, rest)
  | none => (after? "false".toList s).map fun rest => (.bool false, rest)

end ReleaseDrift.Toml
