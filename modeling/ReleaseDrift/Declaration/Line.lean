import ReleaseDrift.Declaration.Change
import ReleaseDrift.Text.WordChar

/-!
What one trimmed line of a model file declares. Each form of line has a recogniser of its
own; `read` puts them in order.
-/

namespace ReleaseDrift.Declaration

open Text

def name? : List Char → Option (List Char × List Char)
  | c :: rest =>
      if isNameStart c then some (c :: rest.takeWhile isWord, rest.dropWhile isWord) else none
  | [] => none

def skipBlanks? : List Char → Option (List Char)
  | c :: rest => if isBlank c then some (trimStart rest) else none
  | [] => none

def skipTypeParameters? : List Char → Option (List Char)
  | '[' :: rest =>
      match rest.dropWhile (· != ']') with
      | _ :: tail => some tail
      | [] => none
  | s => some s

def opens (keyword line : List Char) : Bool :=
  ((after? "type".toList line).bind skipBlanks? |>.bind name? |>.map Prod.snd
    |>.bind skipTypeParameters? |>.bind skipBlanks? |>.bind (after? keyword)
    |>.map trimStart |>.bind (after? ['\x7b'])).isSome

def opensInterface (line : List Char) : Bool := opens "interface".toList line

def opensStruct (line : List Char) : Bool := opens "struct".toList line

inductive Skip where
  | comment
  | declaration
  | implementation
  | unexported
  | braceOnly
  | noMatch
  deriving Repr, DecidableEq

def Skip.all : List Skip :=
  [.comment, .declaration, .implementation, .unexported, .braceOnly, .noMatch]

def Skip.label : Skip → String
  | .comment => "comment"
  | .declaration => "declaration"
  | .implementation => "implementation"
  | .unexported => "unexported"
  | .braceOnly => "brace-only"
  | .noMatch => "no match"

def isComment (line : List Char) : Bool :=
  startsWith "//".toList line || startsWith "/*".toList line || startsWith "*/".toList line ||
    line == ['*'] || startsWith "* ".toList line

def isBracket (c : Char) : Bool :=
  c == '\x7b' || c == '\x7d' || c == '(' || c == ')' || c == '[' || c == ']'

def isBraceOnly (line : List Char) : Bool :=
  line != [] && line.all fun c => isBracket c || c == ';' || c == ',' || isBlank c

def startsWithWord (words : List String) (line : List Char) : Bool :=
  words.any fun word => word.toList == line.takeWhile isWord

def declarationWords : List String := ["package", "import", "type", "const", "var"]

def statementWords : List String :=
  ["func", "return", "if", "else", "for", "switch", "case", "default", "go", "defer", "break",
    "continue", "fallthrough", "select", "goto", "panic"]

def isQuoted : List Char → Bool
  | '"' :: rest => rest.dropWhile (· != '"') == ['"']
  | _ => false

def isImport (line : List Char) : Bool :=
  isQuoted line ||
    match line with
    | c :: rest =>
        (isNameStart c || c == '.') &&
          ((skipBlanks? (rest.dropWhile isWord)).map isQuoted).getD false
    | [] => false

def assignmentMarks : List (List Char) :=
  ["=", "+=", "-=", "*=", "/=", "|=", "&="].map String.toList

def startsWithAssignment (s : List Char) : Bool :=
  assignmentMarks.any fun mark =>
    match after? mark s with
    | some (c :: _) => isBlank c
    | _ => false

def hasAssignment : List Char → Bool
  | [] => false
  | c :: rest =>
      startsWith ":=".toList (c :: rest) || (isBlank c && startsWithAssignment rest) ||
        hasAssignment rest

def isSelectorCall : List Char → Bool
  | [] => false
  | c :: rest =>
      let isPathChar := fun d => isWord d || d == '.'
      isNameStart c &&
        (match cutLast? ['.'] (rest.takeWhile isPathChar) with
          | some (_, d :: _) => isNameStart d
          | _ => false) &&
        (match rest.dropWhile isPathChar with
          | '(' :: arguments => arguments.getLast? == some ')'
          | _ => false)

def isImplementation (line : List Char) : Bool :=
  startsWithWord statementWords line || line.head? == some '\x7d' ||
    line.getLast? == some '\x7b' || hasAssignment line || isSelectorCall line

def exclusion? (line : List Char) : Option Skip :=
  if isComment line then some .comment
  else if isBraceOnly line then some .braceOnly
  else if startsWithWord declarationWords line || isImport line then some .declaration
  else if isImplementation line then some .implementation
  else none

def isTrailer (s : List Char) : Bool :=
  let rest := trimStart s
  rest == [] || startsWith "//".toList rest

def typeName? (s : List Char) : Option (List Char × List Char) :=
  (name? s).bind fun (first, rest) =>
    match rest with
    | '.' :: tail => (name? tail).map fun (second, tail) => (first ++ '.' :: second, tail)
    | _ => some (first, rest)

def embedded? (line : List Char) : Option (List Char) :=
  let (star, rest) := match line with
    | '*' :: rest => (['*'], rest)
    | _ => ([], line)
  (typeName? rest).bind fun (type, tail) => if isTrailer tail then some (star ++ type) else none

/-- The text before the parenthesis that closes `depth` inner ones and one more, and the text
    after it. -/
def closing? : (depth : Nat) → List Char → Option (List Char × List Char)
  | _, [] => none
  | depth, '(' :: rest =>
      (closing? (depth + 1) rest).map fun (before, tail) => ('(' :: before, tail)
  | 0, ')' :: rest => some ([], rest)
  | depth + 1, ')' :: rest =>
      (closing? depth rest).map fun (before, tail) => (')' :: before, tail)
  | depth, c :: rest => (closing? depth rest).map fun (before, tail) => (c :: before, tail)

structure MethodParts where
  name : List Char
  parameters : List Char
  returns : List Char
  deriving Repr, DecidableEq

def beforeComment (s : List Char) : List Char := ((cut? "//".toList s).map Prod.fst).getD s

def method? (line : List Char) : Option MethodParts :=
  match name? line with
  | some (name, '(' :: rest) =>
      (closing? 0 rest).map fun (parameters, tail) =>
        ⟨name, trim parameters, trim (beforeComment tail)⟩
  | _ => none

structure FieldParts where
  name : List Char
  type : List Char
  deriving Repr, DecidableEq

def isFieldTail (s : List Char) : Bool :=
  isTrailer s ||
    match skipBlanks? s with
    | some ('\x60' :: rest) =>
        (match rest.dropWhile (· != '\x60') with
          | _ :: tail => isTrailer tail
          | [] => false)
    | _ => false

def isTypeChar (c : Char) : Bool := !isBlank c && c != '\x60'

/-- A field `Name Type`. A comment that touches the type ends it only where the line cannot
    be read otherwise, and then at its last mark. -/
def field? (line : List Char) : Option FieldParts :=
  (name? line).bind fun (name, rest) =>
    (skipBlanks? rest).bind fun rest =>
      let type := rest.takeWhile isTypeChar
      if type != [] && isFieldTail (rest.dropWhile isTypeChar) then some ⟨name, type⟩
      else
        match cutLast? "//".toList type with
        | some (c :: before, _) => some ⟨name, c :: before⟩
        | _ => none

/-- Exported names start with an upper-case letter; names start with ASCII letters only. -/
def isExported : List Char → Bool
  | c :: _ => 'A' ≤ c && c ≤ 'Z'
  | [] => false

inductive Outcome where
  | change (change : Change)
  | skipped (skip : Skip)
  | blank
  deriving Repr, DecidableEq

def read (line : List Char) (direction : Direction) (block : Block) (number : Nat) : Outcome :=
  if line == [] then .blank
  else
    match exclusion? line with
    | some skip => .skipped skip
    | none =>
        match embedded? line with
        | some type =>
            .change (.embedded ⟨String.ofList type, direction, block, some number⟩)
        | none =>
            match block with
            | .interface =>
                match method? line with
                | some parts =>
                    if isExported parts.name then
                      .change (.method ⟨String.ofList parts.name, String.ofList parts.parameters,
                        String.ofList parts.returns, direction, some number⟩)
                    else .skipped .unexported
                | none => .skipped .noMatch
            | .struct =>
                match field? line with
                | some parts =>
                    if isExported parts.name then
                      .change (.field ⟨String.ofList parts.name, String.ofList parts.type,
                        direction, some number⟩)
                    else .skipped .unexported
                | none => .skipped .noMatch

end ReleaseDrift.Declaration
