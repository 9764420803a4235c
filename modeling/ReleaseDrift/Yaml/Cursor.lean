import ReleaseDrift.Text.Basic

/-!
A place in a YAML text, and the classes of characters that structure it.
-/

namespace ReleaseDrift.Yaml

def isAllowed (c : Char) : Bool :=
  let n := c.toNat
  n == 0x09 || n == 0x0A || n == 0x0D || (0x20 ≤ n && n ≤ 0x7E) || n == 0x85 ||
    (0xA0 ≤ n && n ≤ 0xFFFD) || 0x10000 ≤ n

def isSpace (c : Char) : Bool := c == ' ' || c == '\t'

def isBreak (c : Char) : Bool :=
  c == '\r' || c == '\n' || c.toNat == 0x85 || c.toNat == 0x2028 || c.toNat == 0x2029

def isNameChar (c : Char) : Bool :=
  Text.isAsciiLetter c || Text.isDigit c || c == '_' || c == '-'

structure Cursor where
  rest : List Char
  left : Nat := rest.length
  index : Nat := 0
  line : Nat := 0
  column : Nat := 0
  deriving Repr

namespace Cursor

def atEnd (cursor : Cursor) : Bool := cursor.rest.isEmpty

def peek? (cursor : Cursor) (places : Nat) : Option Char := cursor.rest[places]?

def test (cursor : Cursor) (places : Nat) (p : Char → Bool) : Bool := (cursor.peek? places).any p

def sees (cursor : Cursor) (c : Char) : Bool := cursor.test 0 (· == c)

def atBreak (cursor : Cursor) : Bool := cursor.test 0 isBreak

def blankAt (cursor : Cursor) (places : Nat) : Bool :=
  match cursor.peek? places with
  | some c => isSpace c || isBreak c
  | none => true

def skip (cursor : Cursor) : Cursor :=
  match cursor.rest with
  | c :: rest =>
      { cursor with
        rest, left := cursor.left - 1, index := cursor.index + c.utf8Size,
        column := cursor.column + 1 }
  | [] => cursor

def skipMany (cursor : Cursor) : Nat → Cursor
  | 0 => cursor
  | places + 1 => cursor.skip.skipMany places

def skipWhile (cursor : Cursor) (p : Char → Bool) : Cursor :=
  cursor.skipMany (cursor.rest.takeWhile p).length

def readBreak (cursor : Cursor) : List Char × Cursor :=
  let next (rest : List Char) (places bytes : Nat) : Cursor :=
    { rest, left := cursor.left - places, index := cursor.index + bytes, line := cursor.line + 1,
      column := 0 }
  match cursor.rest with
  | '\r' :: '\n' :: rest => (['\n'], next rest 2 2)
  | c :: rest =>
      if !isBreak c then ([], cursor)
      else if c.toNat == 0x2028 || c.toNat == 0x2029 then ([c], next rest 1 c.utf8Size)
      else (['\n'], next rest 1 c.utf8Size)
  | [] => ([], cursor)

def skipBreak (cursor : Cursor) : Cursor := cursor.readBreak.2

def atDocumentMark (cursor : Cursor) (c : Char) : Bool :=
  cursor.column == 0 && cursor.rest.take 3 == [c, c, c] && cursor.blankAt 3

def atAnyDocumentMark (cursor : Cursor) : Bool :=
  cursor.atDocumentMark '-' || cursor.atDocumentMark '.'

def finishLine? (cursor : Cursor) : Option Cursor :=
  let cursor := cursor.skipWhile isSpace
  let cursor := if cursor.sees '#' then cursor.skipWhile (!isBreak ·) else cursor
  if cursor.atEnd || cursor.atBreak then some cursor.skipBreak else none

end Cursor

end ReleaseDrift.Yaml
