import ReleaseDrift.Glob.Pattern

/-!
Which paths a pattern stands for. The starts of a path are marked as far as the tokens read so
far stand for them, and every token moves the marks on; so a path is gone over once for a token,
however many ways there are to split it.
-/

namespace ReleaseDrift.Glob

def bytes (s : List Char) : List UInt8 := s.flatMap String.utf8EncodeChar

def slash : UInt8 := 47

abbrev Marks := List Bool

namespace Marks

def start (text : List UInt8) : Marks := true :: text.map fun _ => false

def step (p : UInt8 → Bool) (text : List UInt8) (marks : Marks) : Marks :=
  false :: List.zipWith (fun marked b => marked && p b) marks text

def spread (marks : Marks) : Marks := go false marks
where
  go (found : Bool) : Marks → Marks
    | [] => []
    | marked :: rest => (found || marked) :: go (found || marked) rest

def either (marks other : Marks) : Marks := List.zipWith (· || ·) marks other

def cleared (marks : Marks) : Marks := marks.map fun _ => false

def descend (text : List UInt8) (marks : Marks) : Marks :=
  marks.either (marks.spread.step (· == slash) text)

def isComplete (marks : Marks) : Bool := marks.getLast? == some true

end Marks

/-- Ranges between characters, read as bytes: of the first character all but the last byte stand
    alone, of the second all but the first. -/
def coversByte (b : UInt8) (range : Char × Char) : Bool :=
  let first := String.utf8EncodeChar range.1
  let last := String.utf8EncodeChar range.2
  if range.1 = range.2 then first.contains b
  else
    first.dropLast.contains b || last.tail.contains b ||
      (first.getLastD 0 ≤ b && b ≤ last.headD 0)

mutual

def isVoid : List Token → Bool
  | [] => true
  | .choice branches :: rest => areVoid branches && isVoid rest
  | _ :: _ => false

def areVoid : List (List Token) → Bool
  | [] => true
  | branch :: more => isVoid branch && areVoid more

end

mutual

def Token.advance (text : List UInt8) : Token → Marks → Marks
  | .literal c, marks =>
      (String.utf8EncodeChar c).foldl (fun marks b => marks.step (· == b) text) marks
  | .any, marks => marks.step (fun _ => true) text
  | .many, marks => marks.spread
  | .leadingDirs, marks => marks.descend text
  | .trailingDirs, marks => (marks.step (· == slash) text).spread
  | .innerDirs, marks => (marks.step (· == slash) text).descend text
  | .range negated ranges, marks => marks.step (fun b => ranges.any (coversByte b) != negated) text
  | .choice branches, marks => if areVoid branches then marks else advanceAny text branches marks

def advanceAny (text : List UInt8) : List (List Token) → Marks → Marks
  | [], marks => marks.cleared
  | branch :: more, marks =>
      if isVoid branch then advanceAny text more marks
      else (advanceAll text branch marks).either (advanceAny text more marks)

def advanceAll (text : List UInt8) : List Token → Marks → Marks
  | [], marks => marks
  | token :: more, marks => advanceAll text more (token.advance text marks)

end

def covers (tokens : List Token) (text : List UInt8) : Bool :=
  (advanceAll text tokens (Marks.start text)).isComplete

def Token.isLiteral : Token → Bool
  | .literal _ => true
  | _ => false

def Token.isSlash : Token → Bool
  | .literal c => c == '/'
  | _ => false

def Token.isDot : Token → Bool
  | .literal c => c == '.'
  | _ => false

/-- Is the pattern decided by the last component of a path, or by its extension alone or with the
    rest of the pattern? A literal path, a literal start and a longer literal end are not. -/
def byLastComponent (tokens : List Token) : Bool :=
  let (opener, tail) := match tokens with
    | .leadingDirs :: tail => (true, tail)
    | _ => (false, tokens)
  let ending := match tail with
    | .many :: ending => some ending
    | _ => none
  tokens.getLast?.any (·.isDot) &&
    if tail.all (·.isLiteral) then opener && !tail.any (·.isSlash)
    else
      match ending with
      | some ending => if ending.all (·.isLiteral) then ending.length == 1 else true
      | none => true

def lastComponent (path : List UInt8) : List UInt8 :=
  (path.reverse.takeWhile (· != slash)).reverse

def leadsUp (path : List UInt8) : Bool := lastComponent path == bytes ['.', '.']

def matchTokens (tokens : List Token) (path : List UInt8) : Bool :=
  match tokens with
  | [.leadingDirs] => true
  | _ => covers tokens path && !(byLastComponent tokens && leadsUp path)

end ReleaseDrift.Glob
