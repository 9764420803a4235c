import ReleaseDrift.Decimal.Nearest
import ReleaseDrift.Yaml.Node

/-!
YAML documents as JSON values. References are replaced by what they stand for, scalars without
quotes are read as null, truth values and numbers, and keys become their text.
-/

namespace ReleaseDrift.Yaml

def isNull (s : String) : Bool := ["null", "Null", "NULL", "~"].contains s

def bool? (s : String) : Option Bool :=
  if ["true", "True", "TRUE"].contains s then some true
  else if ["false", "False", "FALSE"].contains s then some false
  else none

def isPadded (s : List Char) : Bool :=
  let digits := match s with
    | '+' :: rest => rest
    | '-' :: rest => rest
    | _ => s
  match digits with
  | '0' :: c :: rest => (c :: rest).all Text.isDigit
  | _ => false

def radix? (base : Nat) (digits : List Char) : Option Nat :=
  if digits.isEmpty then none
  else
    digits.foldlM
      (fun n c => (Json.Written.hexDigit? c).bind fun d =>
        if d < base then some (n * base + d) else none) 0

def natural? (s : List Char) : Option Nat :=
  match s with
  | '0' :: 'x' :: digits => radix? 16 digits
  | '0' :: 'o' :: digits => radix? 8 digits
  | '0' :: 'b' :: digits => radix? 2 digits
  | _ => if isPadded s then none else radix? 10 s

def integer? (s : List Char) : Option Int :=
  match s with
  | '+' :: digits => (natural? digits).map Int.ofNat
  | '-' :: digits => (natural? digits).map fun n => -(n : Int)
  | _ => (natural? s).map Int.ofNat

def isWide (n : Int) : Bool := n < -(Nat.pow 2 127 : Int) || n ≥ (Nat.pow 2 128 : Int)

def fits (n : Int) : Bool := -(Nat.pow 2 63 : Int) ≤ n && n < (Nat.pow 2 64 : Int)

/-- A decimal as digits and a power of ten. Digits may be missing before the point or after it,
    not on both sides. -/
def decimal? (s : List Char) : Option (Nat × Int) := do
  let whole := s.takeWhile Text.isDigit
  let (fraction, rest) := match s.dropWhile Text.isDigit with
    | '.' :: rest => (rest.takeWhile Text.isDigit, rest.dropWhile Text.isDigit)
    | rest => ([], rest)
  if whole.isEmpty && fraction.isEmpty then none
  let digits ← radix? 10 (whole ++ fraction)
  match rest with
  | [] => return (digits, -(fraction.length : Int))
  | c :: tail =>
      if c == 'e' || c == 'E' then
        let (exponent, rest) ← Json.Written.exponent? tail
        if rest.isEmpty then return (digits, exponent - fraction.length) else none
      else none

inductive Reading64 where
  | finite (x : Float)
  | special

def float? (s : List Char) : Option Reading64 :=
  let (negative, body) := match s with
    | '-' :: rest => (true, rest)
    | '+' :: rest => (false, rest)
    | _ => (false, s)
  if [".inf", ".Inf", ".INF"].any (·.toList == body) || [".nan", ".NaN", ".NAN"].any (·.toList == s)
  then some .special
  else
    (decimal? body).bind fun (digits, exponent) =>
      (Decimal.nearest? digits exponent).map fun x => .finite (if negative then -x else x)

def Reading64.toJson : Reading64 → Json
  | finite x => .num (.real x)
  | special => .null

/-- A scalar as an integer; `none` when it is no integer, and no value when it is too large. -/
def integerValue (s : List Char) : Option (Option Json) :=
  match integer? s with
  | some n =>
      if isWide n then none else some (if fits n then some (.num (.int n)) else none)
  | none => none

def plainValue (s : List Char) : Option Json :=
  let text := String.ofList s
  if text.isEmpty || isNull text then some .null
  else
    match bool? text with
    | some b => some (.bool b)
    | none =>
        match integerValue s with
        | some value => value
        | none =>
            match if isPadded s then none else float? s with
            | some x => some x.toJson
            | none => some (.str text)

def isMarked (tag : List UInt8) : Bool := (tagBytes "!").isPrefixOf tag

/-- A scalar with a tag. The tags of the core say what the scalar has to be; a marked tag leaves a
    plain scalar as it is, and any other makes it a text. -/
def taggedValue (tag : List UInt8) (s : List Char) (plain : Bool) : Option Json :=
  let text := String.ofList s
  if tag = coreTags ++ tagBytes "bool" then (bool? text).map .bool
  else if tag = coreTags ++ tagBytes "int" then (integerValue s).join
  else if tag = coreTags ++ tagBytes "float" then (float? s).map (·.toJson)
  else if tag = coreTags ++ tagBytes "null" then if isNull text then some .null else none
  else if isMarked tag && plain then plainValue s
  else some (.str text)

def isLocal (tag : Option (List UInt8)) : Bool :=
  tag.any fun bytes => isMarked bytes && (String.fromUTF8? ⟨bytes.toArray⟩).isSome

namespace Node

def anchor? : Node → Option Nat
  | reference _ => none
  | scalar anchor _ _ _ => anchor
  | sequence anchor _ _ => anchor
  | mapping anchor _ _ => anchor

def anchored (node : Node) : List (Nat × Node) :=
  (match node.anchor? with
    | some number => [(number, node)]
    | none => []) ++
    match node with
    | sequence _ _ items => anchoredItems items
    | mapping _ _ entries => anchoredEntries entries
    | _ => []
where
  anchoredItems : List Node → List (Nat × Node)
    | [] => []
    | item :: rest => item.anchored ++ anchoredItems rest
  anchoredEntries : List (Node × Node) → List (Nat × Node)
    | [] => []
    | (key, value) :: rest => key.anchored ++ value.anchored ++ anchoredEntries rest

def size : Node → Nat
  | sequence _ _ items => sizeItems items + 2
  | mapping _ _ entries => sizeEntries entries + 2
  | _ => 1
where
  sizeItems : List Node → Nat
    | [] => 0
    | item :: rest => item.size + sizeItems rest
  sizeEntries : List (Node × Node) → Nat
    | [] => 0
    | (key, value) :: rest => key.size + value.size + sizeEntries rest

end Node

structure Context where
  nodes : List (Nat × Node)
  maxSteps : Nat

def Context.follow (context : Context) (number : Nat) : StateT Nat Option Node := do
  let steps := (← get) + 1
  set steps
  if steps > context.maxSteps then failure
  else context.nodes.reverse.lookup number

def Context.resolve (context : Context) : Node → StateT Nat Option Node
  | .reference number => context.follow number
  | node => pure node

def Context.keyText (context : Context) (key : Node) : StateT Nat Option String := do
  match ← context.resolve key with
  | .scalar _ _ text _ => return String.ofList text
  | _ => failure

def Context.value (context : Context) : (levels : Nat) → Node → StateT Nat Option Json
  | levels, node => do
      match ← context.resolve node with
      | .scalar _ tag text plain =>
          if isLocal tag then failure
          else
            match tag with
            | some tag => taggedValue tag text plain
            | none => if plain then plainValue text else return .str (String.ofList text)
      | .sequence _ tag items =>
          if isLocal tag then failure
          else
            match levels with
            | 0 => failure
            | levels + 1 => return .arr (← items.mapM (context.value levels))
      | .mapping _ tag entries =>
          if isLocal tag then failure
          else
            match levels with
            | 0 => failure
            | levels + 1 => do
                let members ← entries.mapM fun (key, value) => do
                  return (← context.keyText key, ← context.value levels value)
                return .obj (SortedMap.ofList members)
      | .reference _ => failure

def maxLevels : Nat := 128

def ofText? (s : List Char) : Option Json := do
  let tokens ← tokens? s
  match ← document? tokens with
  | none => return .null
  | some node =>
      let context : Context := ⟨node.anchored, node.size * 100⟩
      return (← (context.value maxLevels node).run 0).1

end ReleaseDrift.Yaml
