import ReleaseDrift.CommandLine.Option

/-!
Reading the words of a command line, one by one. The value of an option is checked when the word
after it is taken, so of two faults the first one counts; a word that is not known at all counts
before both.
-/

namespace ReleaseDrift.CommandLine

open Text

inductive Word where
  | separator
  | long (name : List Char) (value : Option (List Char))
  | short (letters : List Char)
  | plain
  deriving Repr, DecidableEq

def Word.ofText (s : List Char) : Word :=
  match s with
  | ['-', '-'] => separator
  | '-' :: '-' :: rest =>
      match cut? ['='] rest with
      | some (name, value) => long name (some value)
      | none => long rest none
  | '-' :: c :: rest => short (c :: rest)
  | _ => plain

structure Reading where
  draft : Draft := {}
  pending : Option (Flag × Option String) := none
  deriving Repr

namespace Reading

def isAwaiting (reading : Reading) : Bool := reading.pending.any (·.2.isNone)

def settle (reading : Reading) : Except Refusal Draft :=
  match reading.pending with
  | none => .ok reading.draft
  | some (_, none) => .error .invalidValue
  | some (flag, some value) => reading.draft.give flag value

def give (reading : Reading) (flag : Flag) (value : String) : Except Refusal Reading := do
  return { draft := ← (← reading.settle).give flag value }

def expect (reading : Reading) (flag : Flag) : Except Refusal Reading := do
  return { draft := ← reading.settle, pending := some (flag, none) }

def long (command : Option CommandName) (reading : Reading) (name : List Char)
    (value : Option (List Char)) : Except Refusal Reading :=
  match (flagsOf command).find? (·.long.toList == name) with
  | none => .error .unknownArgument
  | some flag =>
      match value with
      | some value =>
          if flag.takesValue then reading.give flag (.ofList value) else .error .tooManyValues
      | none => if flag.takesValue then reading.expect flag else reading.give flag ""

/-- Options by their letters. The first that takes a value takes all that follows, without an
    equals sign in front. -/
def short (command : Option CommandName) : Reading → List Char → Except Refusal Reading
  | reading, [] => .ok reading
  | reading, c :: rest =>
      match (flagsOf command).find? (·.short? == some c) with
      | none => .error .unknownArgument
      | some flag =>
          if flag.takesValue then
            match rest with
            | [] => reading.expect flag
            | '=' :: value => reading.give flag (.ofList value)
            | value => reading.give flag (.ofList value)
          else do short command (← reading.give flag "") rest

def operand (command : Option CommandName) (separated : Bool) (reading : Reading) (word : String) :
    Except Refusal Reading :=
  match command with
  | none =>
      if separated ∧ (word = "help" ∨ (CommandName.ofName? word).isSome) then
        .error .unknownArgument
      else .error .unknownCommand
  | some .releases => do
      let draft ← reading.settle
      return { draft := { draft with operands := draft.operands ++ [word] } }
  | some _ => .error .unknownArgument

end Reading

def helpOn : List String → Refusal
  | [] => .help
  | [word] => if word = "help" ∨ (CommandName.ofName? word).isSome then .help else .unknownCommand
  | _ => .unknownCommand

def scan (command : Option CommandName) :
    Reading → List String → Except Refusal (Reading × Option (CommandName × List String))
  | reading, [] => .ok (reading, none)
  | reading, word :: rest =>
      let next := if command.isNone ∧ !reading.isAwaiting then CommandName.ofName? word else none
      match next with
      | some name => .ok (reading, some (name, rest))
      | none =>
          if command.isNone ∧ !reading.isAwaiting ∧ word = "help" then .error (helpOn rest)
          else
            match Word.ofText word.toList with
            | .separator =>
                (rest.foldlM (Reading.operand command true) reading).map fun reading =>
                  (reading, none)
            | .long name value => do scan command (← reading.long command name value) rest
            | .short letters => do scan command (← reading.short command letters) rest
            | .plain =>
                match reading.pending with
                | some (flag, none) =>
                    scan command { reading with pending := some (flag, some word) } rest
                | _ => do scan command (← reading.operand command false word) rest

end ReleaseDrift.CommandLine
