/-!
Path patterns and how they are read. `*` and `?` stand for any bytes, slashes too; `**` as a
whole component stands for any directories; brackets hold a class of bytes and braces hold
alternatives.
-/

namespace ReleaseDrift.Glob

inductive Token where
  | literal (c : Char)
  | any
  | many
  /-- `**` and a slash at the start: nothing, or everything up to some slash. -/
  | leadingDirs
  /-- A slash and `**` at the end: a slash and anything. -/
  | trailingDirs
  /-- `**` between slashes: one slash, or two with anything between them. -/
  | innerDirs
  | range (negated : Bool) (ranges : List (Char × Char))
  | choice (branches : List (List Token))
  deriving Repr

structure Partial where
  current : List Token := []
  /-- For each open group, innermost first, the tokens before it, last first, and its branches
      so far. -/
  groups : List (List Token × List (List Token)) := []

def Partial.push (state : Partial) (token : Token) : Partial :=
  { state with current := token :: state.current }

def Partial.openGroup (state : Partial) : Partial := ⟨[], (state.current, []) :: state.groups⟩

def Partial.comma (state : Partial) : Partial :=
  match state.groups with
  | [] => state.push (.literal ',')
  | (outer, branches) :: groups =>
      ⟨[], (outer, branches ++ [state.current.reverse]) :: groups⟩

def Partial.closeGroup? (state : Partial) : Option Partial :=
  match state.groups with
  | [] => none
  | (outer, branches) :: groups =>
      some ⟨.choice (branches ++ [state.current.reverse]) :: outer, groups⟩

structure RangeList where
  ranges : List (Char × Char) := []
  pending : Bool := false

def RangeList.push? (list : RangeList) (c : Char) : Option RangeList :=
  match list.pending, list.ranges with
  | true, (first, _) :: rest => if c < first then none else some ⟨(first, c) :: rest, false⟩
  | _, ranges => if c = '-' ∧ ranges ≠ [] then some ⟨ranges, true⟩ else some ⟨(c, c) :: ranges, false⟩

def RangeList.close (list : RangeList) : List (Char × Char) :=
  (if list.pending then ('-', '-') :: list.ranges else list.ranges).reverse

def ranges? (list : RangeList) : List Char → Option (List (Char × Char) × List Char)
  | [] => none
  | c :: rest =>
      if c = ']' ∧ list.ranges ≠ [] then some (list.close, rest)
      else (list.push? c).bind fun list => ranges? list rest

/-- Reads two stars. They are directories where they fill a component, else they are stars. -/
def Partial.stars (state : Partial) (previous : Option Char) (rest : List Char) :
    Partial × List Char :=
  let plain := ((state.push .many).push .many, rest)
  let inGroup := !state.groups.isEmpty
  match state.current with
  | [] =>
      match rest with
      | [] => (state.push .leadingDirs, [])
      | '/' :: tail => (state.push .leadingDirs, tail)
      | _ => plain
  | last :: before =>
      let opensComponent := previous == some '/' ||
        (inGroup && (previous == some ',' || previous == some '\x7b'))
      if !opensComponent then plain
      else
        let replace (token : Token) : Partial :=
          match last with
          | .leadingDirs => state
          | .trailingDirs => state
          | _ => { state with current := token :: before }
        match rest with
        | [] => (replace .trailingDirs, [])
        | '/' :: tail => (replace .innerDirs, tail)
        | c :: _ =>
            if inGroup && (c == ',' || c == '\x7d') then (replace .trailingDirs, rest) else plain

def parse? : (fuel : Nat) → Partial → (previous : Option Char) → List Char → Option (List Token)
  | 0, _, _, _ => none
  | _ + 1, state, _, [] => if state.groups.isEmpty then some state.current.reverse else none
  | fuel + 1, state, previous, c :: rest =>
      match c, rest with
      | '?', _ => parse? fuel (state.push .any) (some c) rest
      | '*', '*' :: tail =>
          let (state, remaining) := state.stars previous tail
          let last := if remaining.length < tail.length then '/' else '*'
          parse? fuel state (some last) remaining
      | '*', _ => parse? fuel (state.push .many) (some c) rest
      | '[', _ =>
          let (negated, body) := match rest with
            | '!' :: body => (true, body)
            | '^' :: body => (true, body)
            | body => (false, body)
          (ranges? {} body).bind fun (ranges, remaining) =>
            parse? fuel (state.push (.range negated ranges)) (some ']') remaining
      | '\x7b', _ => parse? fuel state.openGroup (some c) rest
      | '\x7d', _ => state.closeGroup?.bind fun state => parse? fuel state (some c) rest
      | ',', _ => parse? fuel state.comma (some c) rest
      | '\\', [] => none
      | '\\', escaped :: tail => parse? fuel (state.push (.literal escaped)) (some escaped) tail
      | _, _ => parse? fuel (state.push (.literal c)) (some c) rest

def tokens? (pattern : List Char) : Option (List Token) :=
  parse? (pattern.length + 1) {} none pattern

end ReleaseDrift.Glob
