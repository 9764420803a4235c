import ReleaseDrift.Yaml.Scalar

/-!
The tokens of a YAML text. Indentation is turned into tokens that open and close collections,
and a key without an indicator is recognised when its colon is found.
-/

namespace ReleaseDrift.Yaml

inductive Token where
  | version (major minor : Nat)
  | tagDirective (handle : List Char) (start : List UInt8)
  | documentStart
  | documentEnd
  | blockSequence
  | blockMapping
  | blockEnd
  | flowSequence
  | flowSequenceEnd
  | flowMapping
  | flowMappingEnd
  | blockEntry
  | flowEntry
  | key
  | value
  | reference (name : List Char)
  | anchor (name : List Char)
  | tag (handle : List Char) (suffix : List UInt8)
  | scalar (text : List Char) (plain : Bool)
  deriving Repr, DecidableEq

/-- A place where a key without an indicator may have begun: the number of tokens before it. -/
structure KeyPlace where
  tokens : Nat
  index : Nat
  line : Nat
  column : Nat
  required : Bool

def maxKeyLength : Nat := 1024

def KeyPlace.isStale (place : KeyPlace) (cursor : Cursor) : Bool :=
  place.line < cursor.line || place.index + maxKeyLength < cursor.index

structure Lexer where
  cursor : Cursor
  tokens : List Token := []
  count : Nat := 0
  indent : Int := -1
  outer : List Int := []
  keyAllowed : Bool := true
  place : Option KeyPlace := none
  flow : List (Option KeyPlace) := []
  done : Bool := false

namespace Lexer

def inFlow (lexer : Lexer) : Bool := !lexer.flow.isEmpty

def emit (lexer : Lexer) (token : Token) : Lexer :=
  { lexer with tokens := token :: lexer.tokens, count := lexer.count + 1 }

def insert (lexer : Lexer) (place : Nat) (token : Token) : Lexer :=
  { lexer with
    tokens := lexer.tokens.insertIdx (lexer.count - place) token, count := lexer.count + 1 }

def dropPlace? (lexer : Lexer) : Option Lexer :=
  if lexer.place.any (·.required) then none else some { lexer with place := none }

/-- Forgets a place that is too far back. Those of the levels around are looked at when the
    current one ends. -/
def dropStale? (lexer : Lexer) : Option Lexer :=
  if lexer.place.any (·.isStale lexer.cursor) then lexer.dropPlace? else some lexer

def savePlace? (lexer : Lexer) : Option Lexer :=
  if lexer.keyAllowed then
    let cursor := lexer.cursor
    let required := !lexer.inFlow && lexer.indent == (cursor.column : Int)
    lexer.dropPlace?.map fun lexer =>
      { lexer with
        place := some ⟨lexer.count, cursor.index, cursor.line, cursor.column, required⟩ }
  else some lexer

def closeBlocks (lexer : Lexer) (column : Int) : Lexer :=
  if lexer.inFlow then lexer
  else close lexer lexer.outer
where
  close (lexer : Lexer) : List Int → Lexer
    | [] => lexer
    | indent :: outer =>
        if lexer.indent > column then
          close { lexer.emit .blockEnd with indent, outer } outer
        else lexer

def openBlock (lexer : Lexer) (column place : Nat) (token : Token) : Lexer :=
  if lexer.inFlow || lexer.indent ≥ (column : Int) then lexer
  else
    { lexer.insert place token with indent := column, outer := lexer.indent :: lexer.outer }

def openBlockHere (lexer : Lexer) (token : Token) : Lexer :=
  lexer.openBlock lexer.cursor.column lexer.count token

/-- Passes over blanks, comments and line breaks. In a block a new line may start a key, and a
    tab counts as a blank only where none can start. -/
def skipToToken : (fuel : Nat) → Lexer → Lexer
  | 0, lexer => lexer
  | fuel + 1, lexer =>
      let cursor := lexer.cursor
      let cursor :=
        if cursor.column = 0 ∧ cursor.test 0 (·.toNat == 0xFEFF) then cursor.skip else cursor
      let cursor := cursor.skipWhile fun c =>
        c == ' ' || ((lexer.inFlow || !lexer.keyAllowed) && c == '\t')
      let cursor := if cursor.sees '#' then cursor.skipWhile (!isBreak ·) else cursor
      if cursor.atBreak then
        skipToToken fuel
          { lexer with cursor := cursor.skipBreak, keyAllowed := lexer.keyAllowed || !lexer.inFlow }
      else { lexer with cursor }

def take (lexer : Lexer) (places : Nat) (token : Token) : Lexer :=
  { lexer.emit token with cursor := lexer.cursor.skipMany places }

def number? (cursor : Cursor) : Option (Nat × Cursor) :=
  let digits := cursor.rest.takeWhile Text.isDigit
  if digits.isEmpty || digits.length > 9 then none
  else
    some (digits.foldl (fun n c => n * 10 + Json.Written.digitValue c) 0,
      cursor.skipMany digits.length)

def isUriChar (verbatim : Bool) (c : Char) : Bool :=
  isNameChar c || ";/?:@&=+$.%!~*'()".toList.contains c ||
    (verbatim && (c == ',' || c == '[' || c == ']'))

def utf8Length? (byte : Nat) : Option Nat :=
  if byte < 0x80 then some 1
  else if byte / 0x20 = 6 then some 2
  else if byte / 0x10 = 14 then some 3
  else if byte / 0x08 = 30 then some 4
  else none

def percent? : List Char → Option (Nat × List Char)
  | '%' :: a :: b :: rest => (hexNumber? [a, b]).map fun n => (n, rest)
  | _ => none

/-- The bytes of a character, each written with a percent sign. They need the form of UTF-8 and
    no more: they may stand for no character. -/
def percentChar? (s : List Char) : Option (List UInt8 × List Char) := do
  let (first, rest) ← percent? s
  let length ← utf8Length? first
  (List.range (length - 1)).foldlM
    (fun (bytes, rest) _ => do
      let (byte, rest) ← percent? rest
      if byte / 0x40 = 2 then some (bytes ++ [byte.toUInt8], rest) else none)
    ([first.toUInt8], rest)

def uri? (verbatim : Bool) : (fuel : Nat) → List Char → Option (List UInt8 × Nat)
  | 0, _ => some ([], 0)
  | _ + 1, [] => some ([], 0)
  | fuel + 1, c :: rest =>
      if !isUriChar verbatim c then some ([], 0)
      else if c == '%' then
        (percentChar? (c :: rest)).bind fun (decoded, tail) =>
          (uri? verbatim fuel tail).map fun (bytes, places) =>
            (decoded ++ bytes, places + (rest.length + 1 - tail.length))
      else (uri? verbatim fuel rest).map fun (bytes, places) =>
        (String.utf8EncodeChar c ++ bytes, places + 1)

def readUri? (verbatim : Bool) (cursor : Cursor) : Option (List UInt8 × Cursor) :=
  (uri? verbatim (cursor.left + 1) cursor.rest).map fun (bytes, places) =>
    (bytes, cursor.skipMany places)

def untilZero (bytes : List UInt8) : List UInt8 := bytes.takeWhile (· != 0)

def readHandle? (cursor : Cursor) : Option (List Char × Cursor) :=
  if !cursor.sees '!' then none
  else
    let name := (cursor.rest.drop 1).takeWhile isNameChar
    let cursor := cursor.skipMany (1 + name.length)
    if cursor.sees '!' then some ('!' :: name ++ ['!'], cursor.skip) else some ('!' :: name, cursor)

def isFullHandle (handle : List Char) : Bool := handle.length > 1 && handle.getLast? == some '!'

def mark : List UInt8 := String.utf8EncodeChar '!'

def readTag? (cursor : Cursor) : Option (List Char × List UInt8 × Cursor) := do
  if cursor.test 1 (· == '<') then
    let (suffix, cursor) ← readUri? true (cursor.skipMany 2)
    if suffix.isEmpty || !cursor.sees '>' then none
    return ([], untilZero suffix, cursor.skip)
  else
    let (handle, cursor) ← readHandle? cursor
    let (suffix, cursor) ← readUri? false cursor
    if isFullHandle handle then
      if suffix.isEmpty then none
      return (handle, untilZero suffix, cursor)
    else
      let suffix := untilZero ((handle.drop 1).flatMap String.utf8EncodeChar ++ suffix)
      return if suffix.isEmpty then ([], mark, cursor) else (['!'], suffix, cursor)

def directive? (lexer : Lexer) : Option Lexer := do
  let cursor := lexer.cursor.skip
  let name := cursor.rest.takeWhile isNameChar
  let cursor := cursor.skipMany name.length
  if name.isEmpty || !cursor.blankAt 0 then none
  let (token, cursor) ←
    if name = "YAML".toList then do
      let (major, cursor) ← number? (cursor.skipWhile isSpace)
      if !cursor.sees '.' then none
      let (minor, cursor) ← number? cursor.skip
      some (Token.version major minor, cursor)
    else if name = "TAG".toList then do
      let (handle, cursor) ← readHandle? (cursor.skipWhile isSpace)
      if handle != ['!'] && !isFullHandle handle then none
      if !cursor.test 0 isSpace then none
      let (start, cursor) ← readUri? true (cursor.skipWhile isSpace)
      if start.isEmpty || !cursor.blankAt 0 then none
      some (Token.tagDirective handle (untilZero start), cursor)
    else none
  let cursor ← cursor.finishLine?
  return { lexer.emit token with cursor }

def name? (lexer : Lexer) (token : List Char → Token) : Option Lexer :=
  let cursor := lexer.cursor.skip
  let name := cursor.rest.takeWhile isNameChar
  let cursor := cursor.skipMany name.length
  if !name.isEmpty && (cursor.blankAt 0 || cursor.test 0 ("?:,]\x7d%@`".toList.contains ·)) then
    some { lexer.emit (token name) with cursor }
  else none

def colon? (lexer : Lexer) : Option Lexer :=
  match lexer.place with
  | some place =>
      let keyed := lexer.insert place.tokens .key
      let opened := keyed.openBlock place.column place.tokens .blockMapping
      some { opened.take 1 .value with place := none, keyAllowed := false }
  | none =>
      if lexer.inFlow then some { lexer.take 1 .value with keyAllowed := false }
      else if !lexer.keyAllowed then none
      else some ((lexer.openBlockHere .blockMapping).take 1 .value)

def quoted? (lexer : Lexer) (single : Bool) : Option Lexer := do
  let lexer ← lexer.savePlace?
  let cursor := lexer.cursor.skip
  let (text, cursor) ← readQuoted? single (cursor.left + 2) [] cursor
  return { lexer.emit (.scalar text false) with cursor, keyAllowed := false }

def block? (lexer : Lexer) (literal : Bool) : Option Lexer := do
  let lexer ← lexer.dropPlace?
  let (text, cursor) ← readBlock? literal lexer.indent lexer.cursor.skip
  return { lexer.emit (.scalar text false) with cursor, keyAllowed := true }

def plain? (lexer : Lexer) : Option Lexer := do
  let lexer ← lexer.savePlace?
  let cursor := lexer.cursor
  let (text, broken, cursor) ←
    readPlain? lexer.inFlow (lexer.indent + 1).toNat (cursor.left + 2) [] {} cursor
  return { lexer.emit (.scalar text true) with cursor, keyAllowed := broken }

def openFlow? (lexer : Lexer) (token : Token) : Option Lexer := do
  let lexer ← lexer.savePlace?
  return { lexer.take 1 token with
    flow := lexer.place :: lexer.flow, place := none, keyAllowed := true }

def closeFlow? (lexer : Lexer) (token : Token) : Option Lexer := do
  let lexer ← lexer.dropPlace?
  let closed := match lexer.flow with
    | place :: flow => { lexer with place, flow }
    | [] => lexer
  return { closed.take 1 token with keyAllowed := false }

def documentMark? (lexer : Lexer) (token : Token) : Option Lexer := do
  let lexer ← (lexer.closeBlocks (-1)).dropPlace?
  return { lexer.take 3 token with keyAllowed := false }

def isIndicator (c : Char) : Bool := "-?:,[]\x7b\x7d#&*!|>'\"%@`".toList.contains c

def startsPlain (lexer : Lexer) (c : Char) : Bool :=
  !isIndicator c || (c == '-' && !lexer.cursor.test 1 isSpace) ||
    (!lexer.inFlow && (c == '?' || c == ':') && !lexer.cursor.blankAt 1)

def next? (lexer : Lexer) : Option Lexer := do
  let lexer ← (lexer.skipToToken (lexer.cursor.left + 1)).dropStale?
  let lexer := lexer.closeBlocks lexer.cursor.column
  let cursor := lexer.cursor
  match cursor.peek? 0 with
  | none =>
      let lexer ← (lexer.closeBlocks (-1)).dropPlace?
      return { lexer with done := true }
  | some c =>
      if cursor.column = 0 ∧ c = '%' then
        (← (lexer.closeBlocks (-1)).dropPlace?).directive?.map ({ · with keyAllowed := false })
      else if cursor.atDocumentMark '-' then lexer.documentMark? .documentStart
      else if cursor.atDocumentMark '.' then lexer.documentMark? .documentEnd
      else if c == '[' then lexer.openFlow? .flowSequence
      else if c == '\x7b' then lexer.openFlow? .flowMapping
      else if c == ']' then lexer.closeFlow? .flowSequenceEnd
      else if c == '\x7d' then lexer.closeFlow? .flowMappingEnd
      else if c == ',' then
        return { (← lexer.dropPlace?).take 1 .flowEntry with keyAllowed := true }
      else if c == '-' && cursor.blankAt 1 then
        if !lexer.inFlow && !lexer.keyAllowed then none
        let lexer ← (lexer.openBlockHere .blockSequence).dropPlace?
        return { lexer.take 1 .blockEntry with keyAllowed := true }
      else if c == '?' && (lexer.inFlow || cursor.blankAt 1) then
        if !lexer.inFlow && !lexer.keyAllowed then none
        let lexer ← (lexer.openBlockHere .blockMapping).dropPlace?
        return { lexer.take 1 .key with keyAllowed := !lexer.inFlow }
      else if c == ':' && (lexer.inFlow || cursor.blankAt 1) then lexer.colon?
      else if c == '*' then
        (← lexer.savePlace?).name? .reference |>.map ({ · with keyAllowed := false })
      else if c == '&' then
        (← lexer.savePlace?).name? .anchor |>.map ({ · with keyAllowed := false })
      else if c == '!' then
        let lexer ← lexer.savePlace?
        let (handle, suffix, cursor) ← readTag? lexer.cursor
        if !cursor.blankAt 0 && !(lexer.inFlow && cursor.sees ',') then none
        return { lexer.emit (.tag handle suffix) with cursor, keyAllowed := false }
      else if c == '|' && !lexer.inFlow then lexer.block? true
      else if c == '>' && !lexer.inFlow then lexer.block? false
      else if c == '\'' then lexer.quoted? true
      else if c == '"' then lexer.quoted? false
      else if isSpace c || !lexer.startsPlain c then none
      else lexer.plain?

def run? : (fuel : Nat) → Lexer → Option (List Token)
  | 0, _ => none
  | fuel + 1, lexer =>
      lexer.next?.bind fun lexer =>
        if lexer.done then some lexer.tokens.reverse else run? fuel lexer

end Lexer

def tokens? (s : List Char) : Option (List Token) :=
  if s.all isAllowed then
    Lexer.run? (s.length + 2) { cursor := { rest := s } }
  else none

end ReleaseDrift.Yaml
