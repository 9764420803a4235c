import ReleaseDrift.Yaml.Token

/-!
The nodes of a YAML document, from its tokens. A text holds one document at most.
-/

namespace ReleaseDrift.Yaml

inductive Node where
  | reference (anchor : Nat)
  | scalar (anchor : Option Nat) (tag : Option (List UInt8)) (text : List Char) (plain : Bool)
  | sequence (anchor : Option Nat) (tag : Option (List UInt8)) (items : List Node)
  | mapping (anchor : Option Nat) (tag : Option (List UInt8)) (entries : List (Node × Node))
  deriving Repr

structure Reading where
  tokens : List Token
  anchors : List (List Char × Nat) := []
  handles : List (List Char × List UInt8) := []

namespace Reading

def head? (reading : Reading) : Option Token := reading.tokens.head?

def skip (reading : Reading) : Reading := { reading with tokens := reading.tokens.drop 1 }

def atAny (reading : Reading) (tokens : List Token) : Bool :=
  match reading.head? with
  | some token => tokens.contains token
  | none => true

/-- Gives a name the number of names known before; a name that is used again gets a new one. -/
def bind (reading : Reading) (name : List Char) : Nat × Reading :=
  let number := reading.anchors.length
  (number,
    { reading with
      anchors := (name, number) :: reading.anchors.filter fun entry => entry.1 != name })

def resolveTag? (reading : Reading) (handle : List Char) (suffix : List UInt8) :
    Option (List UInt8) :=
  if handle.isEmpty then some suffix
  else (reading.handles.lookup handle).map (· ++ suffix)

end Reading

structure Properties where
  anchor : Option Nat := none
  tag : Option (List UInt8) := none

def anchor? (reading : Reading) : Option (List Char) × Reading :=
  match reading.head? with
  | some (.anchor name) => (some name, reading.skip)
  | _ => (none, reading)

def tag? (reading : Reading) : Option (Option (List UInt8) × Reading) :=
  match reading.head? with
  | some (.tag handle suffix) =>
      (reading.resolveTag? handle suffix).map fun tag => (some tag, reading.skip)
  | _ => some (none, reading)

def properties? (reading : Reading) : Option (Properties × Reading) := do
  let (before, reading) := anchor? reading
  let (tag, reading) ← tag? reading
  let (name, reading) := match before with
    | some name => (some name, reading)
    | none => if tag.isSome then anchor? reading else (none, reading)
  match name with
  | some name =>
      let (anchor, reading) := reading.bind name
      return ({ anchor, tag }, reading)
  | none => return ({ tag }, reading)

def emptyScalar : Node := .scalar none none [] true

mutual

/-- A node. Block collections are read only where `block` allows them, and a sequence without
    indentation of its own only as a value or key of a block mapping. -/
def node? (block inMapping : Bool) : (fuel : Nat) → Reading → Option (Node × Reading)
  | 0, _ => none
  | fuel + 1, reading =>
      match reading.head? with
      | some (.reference name) =>
          (reading.anchors.lookup name).map fun number => (.reference number, reading.skip)
      | _ =>
          (properties? reading).bind fun (properties, reading) =>
            let anchor := properties.anchor
            let tag := properties.tag
            match reading.head? with
            | some (.scalar text plain) => some (.scalar anchor tag text plain, reading.skip)
            | some .flowSequence =>
                (flowItems? true fuel reading.skip).map fun (items, reading) =>
                  (.sequence anchor tag items, reading)
            | some .flowMapping =>
                (flowEntries? true fuel reading.skip).map fun (entries, reading) =>
                  (.mapping anchor tag entries, reading)
            | token =>
                if inMapping && token == some .blockEntry then
                  (looseItems? fuel reading).map fun (items, reading) =>
                    (.sequence anchor tag items, reading)
                else if block && token == some .blockSequence then
                  (blockItems? fuel reading.skip).map fun (items, reading) =>
                    (.sequence anchor tag items, reading)
                else if block && token == some .blockMapping then
                  (blockEntries? fuel reading.skip).map fun (entries, reading) =>
                    (.mapping anchor tag entries, reading)
                else if anchor.isSome || tag.isSome then some (.scalar anchor tag [] true, reading)
                else none

def nodeOrEmpty? (block inMapping : Bool) (ends : List Token) :
    (fuel : Nat) → Reading → Option (Node × Reading)
  | 0, _ => none
  | fuel + 1, reading =>
      if reading.atAny ends then some (emptyScalar, reading)
      else node? block inMapping fuel reading

def blockItems? : (fuel : Nat) → Reading → Option (List Node × Reading)
  | 0, _ => none
  | fuel + 1, reading =>
      match reading.head? with
      | some .blockEntry =>
          (nodeOrEmpty? true false [.blockEntry, .blockEnd] fuel reading.skip).bind
            fun (item, reading) =>
              (blockItems? fuel reading).map fun (items, reading) => (item :: items, reading)
      | some .blockEnd => some ([], reading.skip)
      | _ => none

def looseItems? : (fuel : Nat) → Reading → Option (List Node × Reading)
  | 0, _ => none
  | fuel + 1, reading =>
      match reading.head? with
      | some .blockEntry =>
          (nodeOrEmpty? true false [.blockEntry, .key, .value, .blockEnd] fuel reading.skip).bind
            fun (item, reading) =>
              (looseItems? fuel reading).map fun (items, reading) => (item :: items, reading)
      | _ => some ([], reading)

def blockEntries? : (fuel : Nat) → Reading → Option (List (Node × Node) × Reading)
  | 0, _ => none
  | fuel + 1, reading =>
      let ends := [Token.key, .value, .blockEnd]
      match reading.head? with
      | some .key =>
          (nodeOrEmpty? true true ends fuel reading.skip).bind fun (key, reading) =>
            (match reading.head? with
              | some .value => nodeOrEmpty? true true ends fuel reading.skip
              | _ => some (emptyScalar, reading)).bind fun (value, reading) =>
                (blockEntries? fuel reading).map fun (entries, reading) =>
                  ((key, value) :: entries, reading)
      | some .blockEnd => some ([], reading.skip)
      | _ => none

def flowItems? (first : Bool) : (fuel : Nat) → Reading → Option (List Node × Reading)
  | 0, _ => none
  | fuel + 1, reading =>
      let ends := [Token.flowEntry, .flowSequenceEnd]
      if reading.head? == some .flowSequenceEnd then some ([], reading.skip)
      else if !first && reading.head? != some .flowEntry then none
      else
        let reading := if first then reading else reading.skip
        match reading.head? with
        | some .flowSequenceEnd => some ([], reading.skip)
        | some .key =>
            let reading := reading.skip
            (if reading.head? == some .value then some (emptyScalar, reading.skip)
              else if reading.atAny ends then some (emptyScalar, reading.skip)
              else node? false false fuel reading).bind fun (key, reading) =>
                (match reading.head? with
                  | some .value => nodeOrEmpty? false false ends fuel reading.skip
                  | _ => some (emptyScalar, reading)).bind fun (value, reading) =>
                    (flowItems? false fuel reading).map fun (items, reading) =>
                      (.mapping none none [(key, value)] :: items, reading)
        | _ =>
            (node? false false fuel reading).bind fun (item, reading) =>
              (flowItems? false fuel reading).map fun (items, reading) => (item :: items, reading)

def flowEntries? (first : Bool) : (fuel : Nat) → Reading → Option (List (Node × Node) × Reading)
  | 0, _ => none
  | fuel + 1, reading =>
      let ends := [Token.flowEntry, .flowMappingEnd]
      if reading.head? == some .flowMappingEnd then some ([], reading.skip)
      else if !first && reading.head? != some .flowEntry then none
      else
        let reading := if first then reading else reading.skip
        match reading.head? with
        | some .flowMappingEnd => some ([], reading.skip)
        | some .key =>
            (nodeOrEmpty? false false (.value :: ends) fuel reading.skip).bind fun (key, reading) =>
              (match reading.head? with
                | some .value => nodeOrEmpty? false false ends fuel reading.skip
                | _ => some (emptyScalar, reading)).bind fun (value, reading) =>
                  (flowEntries? false fuel reading).map fun (entries, reading) =>
                    ((key, value) :: entries, reading)
        | _ =>
            (node? false false fuel reading).bind fun (key, reading) =>
              (flowEntries? false fuel reading).map fun (entries, reading) =>
                ((key, emptyScalar) :: entries, reading)

end

def tagBytes (text : String) : List UInt8 := text.toList.flatMap String.utf8EncodeChar

def coreTags : List UInt8 := tagBytes "tag:yaml.org,2002:"

structure Directives where
  version : Bool := false
  handles : List (List Char × List UInt8) := []

/-- Reads directives. A version is given once at most and is 1.1 or 1.2; a handle is given once. -/
def directives? (directives : Directives) : List Token → Option (Directives × List Token)
  | .version major minor :: rest =>
      if directives.version || major != 1 || (minor != 1 && minor != 2) then none
      else directives? { directives with version := true } rest
  | .tagDirective handle start :: rest =>
      if (directives.handles.lookup handle).isSome then none
      else directives? { directives with handles := directives.handles ++ [(handle, start)] } rest
  | tokens => some (directives, tokens)

def defaultHandles : List (List Char × List UInt8) :=
  [(['!'], tagBytes "!"), (['!', '!'], coreTags)]

def document? (tokens : List Token) : Option (Option Node) := do
  if tokens.isEmpty then return none
  let fuel := 4 * tokens.length + 4
  let (directives, rest) ← directives? {} tokens
  let explicit := rest.length < tokens.length || rest.head? == some .documentStart
  let handles := directives.handles ++ defaultHandles
  let (node, reading) ←
    if explicit then
      if rest.head? != some .documentStart then none
      else
        let reading : Reading := { tokens := rest.drop 1, handles }
        match reading.head? with
        | some (.version _ _) => some (emptyScalar, reading)
        | some (.tagDirective _ _) => some (emptyScalar, reading)
        | _ => nodeOrEmpty? true false [.documentStart, .documentEnd] fuel reading
    else node? true false fuel { tokens := rest, handles }
  if (reading.tokens.dropWhile (· == .documentEnd)).isEmpty then return some node else none

end ReleaseDrift.Yaml
