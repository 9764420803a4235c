/-!
Text as a list of characters: blank space, lines, and cutting at a mark.
-/

namespace ReleaseDrift.Text

def isBlank (c : Char) : Bool :=
  let n := c.toNat
  (9 ≤ n && n ≤ 13) || n == 0x20 || n == 0x85 || n == 0xA0 || n == 0x1680 ||
    (0x2000 ≤ n && n ≤ 0x200A) || n == 0x2028 || n == 0x2029 || n == 0x202F ||
    n == 0x205F || n == 0x3000

def trimStart (s : List Char) : List Char := s.dropWhile isBlank

def trimEnd (s : List Char) : List Char := (s.reverse.dropWhile isBlank).reverse

def trim (s : List Char) : List Char := trimEnd (trimStart s)

def after? : (lead s : List Char) → Option (List Char)
  | [], s => some s
  | _ :: _, [] => none
  | l :: lead, c :: s => if l = c then after? lead s else none

def startsWith (lead s : List Char) : Bool := (after? lead s).isSome

/-- The lines of a text. A line ends at a line feed, alone or after a carriage return;
    what follows the last line feed is a line only when it is not empty. -/
def lines : List Char → List (List Char)
  | [] => []
  | '\n' :: rest => [] :: lines rest
  | '\r' :: '\n' :: rest => [] :: lines rest
  | c :: rest =>
      match lines rest with
      | [] => [[c]]
      | line :: more => (c :: line) :: more

def cut? (mark : List Char) : List Char → Option (List Char × List Char)
  | [] => if mark.isEmpty then some ([], []) else none
  | c :: rest =>
      match after? mark (c :: rest) with
      | some tail => some ([], tail)
      | none => (cut? mark rest).map fun (before, tail) => (c :: before, tail)

def cutLast? (mark : List Char) : List Char → Option (List Char × List Char)
  | [] => if mark.isEmpty then some ([], []) else none
  | c :: rest =>
      match cutLast? mark rest with
      | some (before, tail) => some (c :: before, tail)
      | none => (after? mark (c :: rest)).map fun tail => ([], tail)

def pieces (isMark : Char → Bool) : List Char → List (List Char)
  | [] => [[]]
  | c :: rest =>
      if isMark c then [] :: pieces isMark rest
      else
        match pieces isMark rest with
        | [] => [[c]]
        | piece :: more => (c :: piece) :: more

def byteLength : List Char → Nat
  | [] => 0
  | c :: rest => c.utf8Size + byteLength rest

/-- Cuts the text after exactly `n` bytes; a cut inside a character is refused. -/
def cutAtByte? : Nat → List Char → Option (List Char × List Char)
  | 0, s => some ([], s)
  | _ + 1, [] => none
  | n + 1, c :: rest =>
      if c.utf8Size ≤ n + 1 then
        (cutAtByte? (n + 1 - c.utf8Size) rest).map fun (before, tail) => (c :: before, tail)
      else none

def isAsciiLetter (c : Char) : Bool :=
  ('a' ≤ c && c ≤ 'z') || ('A' ≤ c && c ≤ 'Z')

def isDigit (c : Char) : Bool := '0' ≤ c && c ≤ '9'

end ReleaseDrift.Text
