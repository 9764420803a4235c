import ReleaseDrift.Json.Reader
import ReleaseDrift.Yaml.Cursor

/-!
Reading the text of scalars: plain, quoted and in blocks. Line breaks inside a plain or quoted
scalar are folded.
-/

namespace ReleaseDrift.Yaml

structure Gap where
  broken : Bool := false
  blanks : List Char := []
  firstBreak : List Char := []
  moreBreaks : List Char := []

namespace Gap

/-- A break followed by others counts as those; a break alone counts as a space. -/
def text (gap : Gap) : List Char :=
  if !gap.broken then gap.blanks.reverse
  else if gap.firstBreak.head? == some '\n' then
    if gap.moreBreaks.isEmpty then [' '] else gap.moreBreaks.reverse
  else gap.firstBreak ++ gap.moreBreaks.reverse

def isEmpty (gap : Gap) : Bool := !gap.broken && gap.blanks.isEmpty

def read? (column : Nat) : (fuel : Nat) → Gap → Cursor → Option (Gap × Cursor)
  | 0, _, _ => none
  | fuel + 1, gap, cursor =>
      match cursor.peek? 0 with
      | none => some (gap, cursor)
      | some c =>
          if isSpace c then
            if gap.broken && cursor.column < column && c == '\t' then none
            else if gap.broken then read? column fuel gap cursor.skip
            else read? column fuel { gap with blanks := c :: gap.blanks } cursor.skip
          else if isBreak c then
            let (text, cursor) := cursor.readBreak
            if gap.broken then
              read? column fuel { gap with moreBreaks := text.reverseAux gap.moreBreaks } cursor
            else
              read? column fuel { gap with broken := true, blanks := [], firstBreak := text } cursor
          else some (gap, cursor)

end Gap

structure Run where
  text : List Char
  brokenOff : Bool
  cursor : Cursor

def simpleEscape? : Char → Option Char
  | '0' => some '\x00'
  | 'a' => some '\x07'
  | 'b' => some '\x08'
  | 't' => some '\t'
  | '\t' => some '\t'
  | 'n' => some '\n'
  | 'v' => some '\x0b'
  | 'f' => some '\x0c'
  | 'r' => some '\r'
  | 'e' => some '\x1b'
  | ' ' => some ' '
  | '"' => some '"'
  | '/' => some '/'
  | '\\' => some '\\'
  | 'N' => some '\u0085'
  | '_' => some '\u00a0'
  | 'L' => some '\u2028'
  | 'P' => some '\u2029'
  | _ => none

def codeLength? : Char → Option Nat
  | 'x' => some 2
  | 'u' => some 4
  | 'U' => some 8
  | _ => none

def hexNumber? (digits : List Char) : Option Nat :=
  digits.foldlM (fun n c => (Json.Written.hexDigit? c).map (n * 16 + ·)) 0

def escape? (cursor : Cursor) : Option (Char × Cursor) :=
  match cursor.rest with
  | _ :: letter :: rest =>
      match simpleEscape? letter with
      | some c => some (c, cursor.skipMany 2)
      | none =>
          (codeLength? letter).bind fun length =>
            let digits := rest.take length
            if digits.length < length then none
            else
              (hexNumber? digits).bind fun n =>
                if (0xD800 ≤ n ∧ n ≤ 0xDFFF) ∨ n > 0x10FFFF then none
                else some (Char.ofNat n, cursor.skipMany (2 + length))
  | _ => none

def readRun? (single : Bool) : (fuel : Nat) → List Char → Cursor → Option Run
  | 0, _, _ => none
  | fuel + 1, text, cursor =>
      match cursor.rest with
      | [] => some ⟨text, false, cursor⟩
      | c :: tail =>
          if isSpace c || isBreak c then some ⟨text, false, cursor⟩
          else if single then
            if c == '\'' then
              if tail.head? == some '\'' then readRun? single fuel ('\'' :: text) (cursor.skipMany 2)
              else some ⟨text, false, cursor⟩
            else readRun? single fuel (c :: text) cursor.skip
          else if c == '"' then some ⟨text, false, cursor⟩
          else if c == '\\' then
            if tail.head?.any isBreak then some ⟨text, true, cursor.skip.skipBreak⟩
            else (escape? cursor).bind fun (c, cursor) => readRun? single fuel (c :: text) cursor
          else readRun? single fuel (c :: text) cursor.skip

def readQuoted? (single : Bool) : (fuel : Nat) → List Char → Cursor → Option (List Char × Cursor)
  | 0, _, _ => none
  | fuel + 1, text, cursor =>
      if cursor.atAnyDocumentMark || cursor.atEnd then none
      else
        (readRun? single (cursor.left + 1) text cursor).bind fun run =>
          if run.cursor.sees (if single then '\'' else '"') then
            some (run.text.reverse, run.cursor.skip)
          else
            (Gap.read? 0 (run.cursor.left + 1) { broken := run.brokenOff } run.cursor).bind
              fun (gap, cursor) =>
                readQuoted? single fuel (gap.text.reverse ++ run.text) cursor

def isFlowMark (c : Char) : Bool :=
  c == ',' || c == '[' || c == ']' || c == '\x7b' || c == '\x7d'

/-- Reads the characters of a plain scalar up to a blank, a break or an indicator. The gap before
    them belongs to the scalar when there are any. -/
def readWord? (inFlow : Bool) : (fuel : Nat) → List Char → Gap → Cursor →
    Option (List Char × Gap × Cursor)
  | 0, _, _, _ => none
  | fuel + 1, text, gap, cursor =>
      match cursor.rest with
      | [] => some (text, gap, cursor)
      | c :: tail =>
          if isSpace c || isBreak c then some (text, gap, cursor)
          else if inFlow && c == ':' && tail.head?.any (fun d => isFlowMark d || d == '?') then none
          else if c == ':' && cursor.blankAt 1 then some (text, gap, cursor)
          else if inFlow && isFlowMark c then some (text, gap, cursor)
          else readWord? inFlow fuel (c :: gap.text.reverse ++ text) {} cursor.skip

def readPlain? (inFlow : Bool) (column : Nat) : (fuel : Nat) → List Char → Gap → Cursor →
    Option (List Char × Bool × Cursor)
  | 0, _, _, _ => none
  | fuel + 1, text, gap, cursor =>
      if cursor.atAnyDocumentMark || cursor.sees '#' then some (text.reverse, gap.broken, cursor)
      else
        (readWord? inFlow (cursor.left + 1) text gap cursor).bind fun (text, gap, cursor) =>
          if !cursor.test 0 (fun c => isSpace c || isBreak c) then
            some (text.reverse, gap.broken, cursor)
          else
            (Gap.read? column (cursor.left + 1) gap cursor).bind fun (gap, cursor) =>
              if !inFlow && cursor.column < column then some (text.reverse, gap.broken, cursor)
              else readPlain? inFlow column fuel text gap cursor

inductive Chomping where
  | strip
  | clip
  | keep
  deriving Repr, DecidableEq

def blockHeader? (cursor : Cursor) : Option (Chomping × Nat × Cursor) :=
  let chomping? (cursor : Cursor) : Option Chomping :=
    if cursor.sees '+' then some .keep else if cursor.sees '-' then some .strip else none
  let digit? (cursor : Cursor) : Option Char :=
    if cursor.test 0 Text.isDigit then cursor.peek? 0 else none
  let header : Option (Chomping × Nat × Cursor) :=
    match chomping? cursor, digit? cursor with
    | some chomping, _ =>
        match digit? cursor.skip with
        | some '0' => none
        | some digit => some (chomping, Json.Written.digitValue digit, cursor.skipMany 2)
        | none => some (chomping, 0, cursor.skip)
    | none, some '0' => none
    | none, some digit =>
        match chomping? cursor.skip with
        | some chomping => some (chomping, Json.Written.digitValue digit, cursor.skipMany 2)
        | none => some (.clip, Json.Written.digitValue digit, cursor.skip)
    | none, none => some (.clip, 0, cursor)
  header.bind fun (chomping, increment, cursor) =>
    cursor.finishLine?.map fun cursor => (chomping, increment, cursor)

/-- Reads the indentation and the empty lines before a line of a block, with the widest column
    seen. The breaks so far are given last first. As long as the indentation is open (zero) all
    spaces belong to it; a tab never does. -/
def blockBreaks? (indent : Nat) : (fuel : Nat) → (widest : Nat) → List Char → Cursor →
    Option (Nat × List Char × Cursor)
  | 0, _, _, _ => none
  | fuel + 1, widest, breaks, cursor =>
      let spaces := (cursor.rest.takeWhile (· == ' ')).length
      let cursor :=
        cursor.skipMany (if indent = 0 then spaces else min spaces (indent - cursor.column))
      let widest := max widest cursor.column
      if (indent = 0 ∨ cursor.column < indent) ∧ cursor.sees '\t' then none
      else if cursor.atBreak then
        let (text, cursor) := cursor.readBreak
        blockBreaks? indent fuel widest (text.reverseAux breaks) cursor
      else some (widest, breaks.reverse, cursor)

structure BlockLines where
  text : List Char := []
  leading : List Char := []
  trailing : List Char := []
  indented : Bool := false

def BlockLines.joint (lines : BlockLines) (literal nextIndented : Bool) : List Char :=
  if !literal && lines.leading.head? == some '\n' && !lines.indented && !nextIndented then
    (if lines.trailing.isEmpty then [' '] else []) ++ lines.trailing
  else lines.leading ++ lines.trailing

def blockLines? (literal : Bool) (indent : Nat) : (fuel : Nat) → BlockLines → Cursor →
    Option (BlockLines × Cursor)
  | 0, _, _ => none
  | fuel + 1, lines, cursor =>
      if cursor.column = indent ∧ !cursor.atEnd then
        let indented := cursor.test 0 isSpace
        let content := cursor.rest.takeWhile (!isBreak ·)
        let text := content.reverseAux ((lines.joint literal indented).reverseAux lines.text)
        let (leading, cursor) := (cursor.skipMany content.length).readBreak
        (blockBreaks? indent (cursor.left + 1) 0 [] cursor).bind
          fun (_, trailing, cursor) =>
            blockLines? literal indent fuel { text, leading, trailing, indented } cursor
      else some (lines, cursor)

def readBlock? (literal : Bool) (outer : Int) (cursor : Cursor) : Option (List Char × Cursor) :=
  (blockHeader? cursor).bind fun (chomping, increment, cursor) =>
    let given := if increment = 0 then 0 else outer.toNat + increment
    (blockBreaks? given (cursor.left + 1) 0 [] cursor).bind fun (widest, trailing, cursor) =>
      let indent := if given = 0 then max (max widest (outer + 1).toNat) 1 else given
      (blockLines? literal indent (cursor.left + 1) { trailing } cursor).map
        fun (lines, cursor) =>
          let ending := match chomping with
            | .strip => []
            | .clip => lines.leading
            | .keep => lines.leading ++ lines.trailing
          (lines.text.reverse ++ ending, cursor)

end ReleaseDrift.Yaml
