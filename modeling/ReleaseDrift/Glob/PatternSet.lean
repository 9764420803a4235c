import ReleaseDrift.Glob.Matching

/-!
Sets of patterns. A malformed pattern is left out of its set; a pattern whose parts are nested
too deep spoils the whole set, which then matches nothing.
-/

namespace ReleaseDrift.Glob

def rangeWidth (range : Char × Char) : Nat :=
  let first := (String.utf8EncodeChar range.1).length
  let last := (String.utf8EncodeChar range.2).length
  if range.1 = range.2 then first else first + last - 1

def rangesWidth : List (Char × Char) → Nat
  | [] => 0
  | range :: more => rangeWidth range + rangesWidth more

def Token.width : Token → Nat
  | .literal c => (String.utf8EncodeChar c).length
  | .trailingDirs => 2
  | .choice branches => if areVoid branches then 0 else 1
  | _ => 1

def levelOf (parts : Nat) : Nat := if parts > 1 then 1 else 0

def width : List Token → Nat
  | [] => 0
  | token :: more => token.width + width more

mutual

/-- How many levels a token takes: one for each group, choice, sequence, class and repetition. -/
def Token.depth : Token → Nat
  | .literal _ => 0
  | .any => 0
  | .many => 1
  | .leadingDirs => 4
  | .trailingDirs => 1
  | .innerDirs => 4
  | .range _ ranges => 1 + levelOf (rangesWidth ranges)
  | .choice branches =>
      if areVoid branches then 0
      else 1 + levelOf (branches.filter (!isVoid ·)).length + branchDepth branches

def branchDepth : List (List Token) → Nat
  | [] => 0
  | branch :: more => max (levelOf (width branch) + tokenDepth branch) (branchDepth more)

def tokenDepth : List Token → Nat
  | [] => 0
  | token :: more => max token.depth (tokenDepth more)

end

def maxDepth : Nat := 250

def isTooDeep (tokens : List Token) : Bool := 1 + tokenDepth tokens > maxDepth

def readable (patterns : List String) : List (List Token) :=
  patterns.filterMap fun pattern => tokens? pattern.toList

def matchesAny (patterns : List String) (path : String) : Bool :=
  let set := readable patterns
  !set.any isTooDeep && set.any (matchTokens · (bytes path.toList))

end ReleaseDrift.Glob
