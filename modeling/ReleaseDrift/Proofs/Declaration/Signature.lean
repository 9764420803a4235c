import ReleaseDrift.Proofs.Declaration.Remark
import ReleaseDrift.Proofs.Declaration.Rendering

/-!
Methods as lines. A line is a method exactly when a name stands before parentheses that close, it
is cut where they close first, and the signature of a method is a line that is cut into the same
parts.
-/

namespace ReleaseDrift.Declaration

open Text

/-- The text never closes the parenthesis that it stands in, with so many more open inside it. -/
def StaysOpen (depth : Nat) (s : List Char) : Prop :=
  ∀ front, front <+: s → front.count ')' ≤ front.count '(' + depth

section StaysOpen

variable {depth : Nat} {s : List Char}

theorem staysOpen_nil : StaysOpen depth [] := by
  intro front start
  rw [List.prefix_nil.mp start]
  simp

theorem staysOpen_cons {c : Char} :
    StaysOpen depth (c :: s) ↔
      ∀ front, front <+: s → (c :: front).count ')' ≤ (c :: front).count '(' + depth := by
  constructor
  · intro stays front start
    exact stays (c :: front) (List.cons_prefix_cons.mpr ⟨rfl, start⟩)
  · intro stays front start
    cases front with
    | nil => simp
    | cons d front =>
        obtain ⟨rfl, inside⟩ := List.cons_prefix_cons.mp start
        exact stays front inside

theorem staysOpen_cons_open : StaysOpen depth ('(' :: s) ↔ StaysOpen (depth + 1) s := by
  rw [staysOpen_cons, StaysOpen]
  simp only [List.count_cons, beq_iff_eq]
  simp [Nat.add_assoc, Nat.add_comm 1 depth]

theorem staysOpen_cons_close : StaysOpen (depth + 1) (')' :: s) ↔ StaysOpen depth s := by
  rw [staysOpen_cons, StaysOpen]
  simp [← Nat.add_assoc]

theorem not_staysOpen_cons_close : ¬ StaysOpen 0 (')' :: s) := by
  rw [staysOpen_cons]
  intro stays
  have bound := stays [] List.nil_prefix
  simp at bound

theorem staysOpen_cons_other {c : Char} (notOpen : c ≠ '(') (notClose : c ≠ ')') :
    StaysOpen depth (c :: s) ↔ StaysOpen depth s := by
  rw [staysOpen_cons, StaysOpen]
  simp [List.count_cons_of_ne, notOpen, notClose]

theorem ne_close {c : Char} (notLast : depth = 0 → c = ')' → False)
    (notInner : ∀ below, depth = below + 1 → c = ')' → False) : c ≠ ')' := by
  cases depth with
  | zero => exact notLast rfl
  | succ below => exact notInner below rfl

/-- The count of open parentheses goes below none only where one closes that was not opened. -/
theorem closing?_eq_none_iff : closing? depth s = none ↔ StaysOpen depth s := by
  fun_induction closing? depth s with
  | case1 depth => simp [staysOpen_nil]
  | case2 depth rest ih => rw [Option.map_eq_none_iff, ih, staysOpen_cons_open]
  | case3 rest => simp [not_staysOpen_cons_close]
  | case4 depth rest ih => rw [Option.map_eq_none_iff, ih, staysOpen_cons_close]
  | case5 depth c rest notOpen notLast notInner ih =>
      have notClose := ne_close notLast notInner
      rw [Option.map_eq_none_iff, ih, staysOpen_cons_other notOpen notClose]

theorem staysOpen_of_closing? {before tail : List Char}
    (closed : closing? depth s = some (before, tail)) :
    StaysOpen depth before ∧ before.count ')' = before.count '(' + depth := by
  fun_induction closing? depth s generalizing before with
  | case1 => contradiction
  | case2 depth rest ih =>
      obtain ⟨⟨inside, _⟩, found, same⟩ := Option.map_eq_some_iff.mp closed
      cases same
      obtain ⟨stays, whole⟩ := ih found
      refine ⟨staysOpen_cons_open.mpr stays, ?_⟩
      simp [whole]
      omega
  | case3 rest =>
      cases closed
      exact ⟨staysOpen_nil, rfl⟩
  | case4 depth rest ih =>
      obtain ⟨⟨inside, _⟩, found, same⟩ := Option.map_eq_some_iff.mp closed
      cases same
      obtain ⟨stays, whole⟩ := ih found
      refine ⟨staysOpen_cons_close.mpr stays, ?_⟩
      simp [whole]
      omega
  | case5 depth c rest notOpen notLast notInner ih =>
      obtain ⟨⟨inside, _⟩, found, same⟩ := Option.map_eq_some_iff.mp closed
      cases same
      obtain ⟨stays, whole⟩ := ih found
      have notClose := ne_close notLast notInner
      refine ⟨(staysOpen_cons_other notOpen notClose).mpr stays, ?_⟩
      rw [List.count_cons_of_ne notOpen, List.count_cons_of_ne notClose, whole]

end StaysOpen

theorem isBalanced_of_closing? {s before tail : List Char}
    (closed : closing? 0 s = some (before, tail)) : IsBalanced before :=
  ⟨(staysOpen_of_closing? closed).1, (staysOpen_of_closing? closed).2⟩

theorem IsBalanced.trim {s : List Char} (balanced : IsBalanced s) : IsBalanced (trim s) := by
  obtain ⟨lead, rest, whole, blankLead, blankRest⟩ := exists_trim s
  have noneOf (blanks : List Char) (blank : ∀ c ∈ blanks, isBlank c = true) (c : Char)
      (shown : isBlank c = false) : blanks.count c = 0 :=
    List.count_eq_zero.mpr fun member => by simp [blank c member] at shown
  have opened : s.count '(' = (Text.trim s).count '(' := by
    conv_lhs => rw [whole]
    simp [noneOf lead blankLead '(' rfl, noneOf rest blankRest '(' rfl]
  have closed : s.count ')' = (Text.trim s).count ')' := by
    conv_lhs => rw [whole]
    simp [noneOf lead blankLead ')' rfl, noneOf rest blankRest ')' rfl]
  refine ⟨?_, by rw [← opened, ← closed, balanced.whole]⟩
  intro front start
  have longer : lead ++ front <+: s := by
    rw [whole]
    exact (List.prefix_append_right_inj lead).mpr (start.trans (List.prefix_append _ rest))
  have bound := balanced.prefixes (lead ++ front) longer
  simpa [noneOf lead blankLead '(' rfl, noneOf lead blankLead ')' rfl] using bound

structure IsCutAtComment (shown comment : List Char) : Prop where
  mark : comment = [] ∨ "//".toList <+: comment
  first : ∀ earlier rest, shown ++ comment = earlier ++ "//".toList ++ rest →
    shown.length ≤ earlier.length

namespace IsCutAtComment

variable {shown comment : List Char}

theorem unmarked (isCut : IsCutAtComment shown comment) : ¬ ['/', '/'] <:+: shown := by
  rintro ⟨earlier, rest, inside⟩
  have bound := isCut.first earlier (rest ++ comment) (by rw [← inside]; simp)
  have length := congrArg List.length inside
  simp at length
  omega

theorem of_unmarked (unmarked : ¬ ['/', '/'] <:+: shown) : IsCutAtComment shown [] where
  mark := Or.inl rfl
  first earlier rest whole := by
    rw [List.append_nil] at whole
    exact absurd ⟨earlier, rest, whole.symm⟩ unmarked

theorem beforeComment_append (isCut : IsCutAtComment shown comment) :
    beforeComment (shown ++ comment) = shown := by
  rw [beforeComment]
  rcases isCut.mark with rfl | ⟨rest, rfl⟩
  · rw [List.append_nil, show "//".toList = ['/', '/'] from rfl,
      cut?_eq_none_iff.mpr isCut.unmarked]
    rfl
  · have found : cut? "//".toList (shown ++ ("//".toList ++ rest)) = some (shown, rest) :=
      cut?_eq_some_iff.mpr ⟨(List.append_assoc _ _ _).symm, isCut.first⟩
    rw [found]
    rfl

end IsCutAtComment

theorem exists_isCutAtComment (s : List Char) :
    ∃ shown comment, s = shown ++ comment ∧ IsCutAtComment shown comment := by
  cases found : cut? "//".toList s with
  | none =>
      exact ⟨s, [], (List.append_nil s).symm, .of_unmarked (cut?_eq_none_iff.mp found)⟩
  | some parts =>
      obtain ⟨whole, first⟩ := cut?_eq_some_iff.mp found
      rw [List.append_assoc] at whole
      refine ⟨parts.1, "//".toList ++ parts.2, whole, Or.inr (List.prefix_append _ _), ?_⟩
      rw [← whole]
      exact first

/-- A method line as it is written: a name, parentheses that close, and behind them what is
    returned and a comment. -/
structure MethodText where
  name : List Char
  parameters : List Char
  returns : List Char
  comment : List Char
  isName : IsName name
  balanced : IsBalanced parameters
  isCut : IsCutAtComment returns comment

namespace MethodText

def tail (text : MethodText) : List Char := text.returns ++ text.comment

def line (text : MethodText) : List Char :=
  text.name ++ '(' :: (text.parameters ++ ')' :: text.tail)

def parts (text : MethodText) : MethodParts :=
  ⟨text.name, trim text.parameters, trim text.returns⟩

theorem name?_line (text : MethodText) :
    name? text.line = some (text.name, '(' :: (text.parameters ++ ')' :: text.tail)) :=
  name?_append text.isName (by simp; decide)

theorem closing?_line (text : MethodText) :
    closing? 0 (text.parameters ++ ')' :: text.tail) = some (text.parameters, text.tail) :=
  closing?_append text.tail text.balanced.prefixes text.balanced.whole

theorem method?_line (text : MethodText) : method? text.line = some text.parts := by
  have read := method?_append text.tail text.isName text.balanced
  rw [tail, text.isCut.beforeComment_append] at read
  exact read

/-- There is one way to write a line: the name ends at the parenthesis, and the parameters end
    where that one closes first. -/
theorem line_injective : Function.Injective line := by
  intro text other same
  have named := text.name?_line
  rw [same, other.name?_line] at named
  have closed := text.closing?_line
  obtain ⟨sameName, sameRest⟩ := Prod.mk.inj (Option.some.inj named)
  rw [← (List.cons.inj sameRest).2, other.closing?_line] at closed
  obtain ⟨sameParameters, sameTail⟩ := Prod.mk.inj (Option.some.inj closed)
  have sameReturns : other.returns = text.returns := by
    rw [← other.isCut.beforeComment_append, ← text.isCut.beforeComment_append]
    exact congrArg beforeComment sameTail
  have sameComment : other.comment = text.comment := by
    rw [tail, tail, sameReturns] at sameTail
    exact List.append_cancel_left sameTail
  cases text
  cases other
  simp_all

structure IsCutAtBytes (text : MethodText) : Prop where
  opening : cutAtByte? (byteLength text.name + 1) text.line =
    some (text.name ++ ['('], text.parameters ++ ')' :: text.tail)
  closing : cutAtByte? (byteLength text.name + 1 + byteLength text.parameters) text.line =
    some (text.name ++ '(' :: text.parameters, ')' :: text.tail)
  behind : cutAtByte? (byteLength text.name + 1 + byteLength text.parameters + 1) text.line =
    some (text.name ++ '(' :: (text.parameters ++ [')']), text.tail)
  comment : cutAtByte? (byteLength text.returns) text.tail = some (text.returns, text.comment)

theorem isCutAtBytes (text : MethodText) : text.IsCutAtBytes := by
  have cutAfter {size : Nat} {front rest : List Char} (bytes : byteLength front = size)
      (whole : text.line = front ++ rest) : cutAtByte? size text.line = some (front, rest) := by
    rw [← bytes, whole, cutAtByte?_append]
  have opening : byteLength (text.name ++ ['(']) = byteLength text.name + 1 := by
    rw [byteLength_append]
    rfl
  have closing : byteLength (text.name ++ '(' :: text.parameters) =
      byteLength text.name + 1 + byteLength text.parameters := by
    rw [List.append_cons, byteLength_append, opening]
  have behind : byteLength (text.name ++ '(' :: (text.parameters ++ [')'])) =
      byteLength text.name + 1 + byteLength text.parameters + 1 := by
    rw [← List.cons_append, ← List.append_assoc, byteLength_append, closing]
    rfl
  exact
    { opening := cutAfter opening (by simp [line])
      closing := cutAfter closing (by simp [line])
      behind := cutAfter behind (by simp [line])
      comment := cutAtByte?_append text.returns text.comment }

end MethodText

theorem method?_eq_some_iff {line : List Char} {parts : MethodParts} :
    method? line = some parts ↔ ∃ text : MethodText, text.line = line ∧ text.parts = parts := by
  constructor
  · intro found
    unfold method? at found
    split at found
    · rename_i name rest named
      obtain ⟨⟨parameters, tail⟩, closed, rfl⟩ := Option.map_eq_some_iff.mp found
      obtain ⟨whole, isName, _⟩ := name?_eq_some named
      obtain ⟨returns, comment, rfl, isCut⟩ := exists_isCutAtComment tail
      let text : MethodText :=
        ⟨name, parameters, returns, comment, isName, isBalanced_of_closing? closed, isCut⟩
      refine ⟨text, ?_, ?_⟩
      · rw [whole, eq_append_of_closing? closed]
        rfl
      · simp only [isCut.beforeComment_append]
        rfl
    · contradiction
  · rintro ⟨text, rfl, rfl⟩
    exact text.method?_line

theorem method?_eq_none_iff {line : List Char} :
    method? line = none ↔
      ∀ name rest, IsName name → line = name ++ '(' :: rest → StaysOpen 0 rest := by
  constructor
  · rintro failed name rest isName rfl
    have named : name? (name ++ '(' :: rest) = some (name, '(' :: rest) :=
      name?_append isName (by simp; decide)
    simp only [method?, named, Option.map_eq_none_iff] at failed
    exact closing?_eq_none_iff.mp failed
  · intro stays
    unfold method?
    split
    · rename_i name rest named
      obtain ⟨whole, isName, _⟩ := name?_eq_some named
      rw [closing?_eq_none_iff.mpr (stays name rest isName whole), Option.map_none]
    · rfl

def MethodParts.toMethod (parts : MethodParts) (direction : Direction) (number : Option Nat) :
    MethodChange :=
  ⟨.ofList parts.name, .ofList parts.parameters, .ofList parts.returns, direction, number⟩

theorem method?_signature {line : List Char} {parts : MethodParts}
    (found : method? line = some parts) (direction : Direction) (number : Option Nat) :
    method? (parts.toMethod direction number).signature.toList = some parts := by
  obtain ⟨text, rfl, rfl⟩ := method?_eq_some_iff.mp found
  let method := text.parts.toMethod direction number
  have parameters : method.parameters.toList = trim text.parameters := String.toList_ofList
  have returns : method.returns.toList = trim text.returns := String.toList_ofList
  have inside : trim text.returns <:+: text.returns := by
    obtain ⟨lead, rest, whole, _⟩ := exists_trim text.returns
    exact ⟨lead, rest, by rw [List.append_assoc, ← whole]⟩
  have unmarked : ¬ ['/', '/'] <:+: method.tail := by
    rw [MethodChange.tail, returns]
    split
    · decide
    · rw [List.infix_cons_iff, not_or]
      exact ⟨by simp [List.cons_prefix_cons], fun mark => text.isCut.unmarked (mark.trans inside)⟩
  let again : MethodText :=
    ⟨text.name, trim text.parameters, method.tail, [], text.isName, text.balanced.trim,
      .of_unmarked unmarked⟩
  have twice : trim (trim text.parameters) = trim text.parameters :=
    trim_of_isTrimmed (isTrimmed_trim text.parameters)
  have shown : trim method.tail = trim text.returns := by
    rw [MethodChange.trim_tail (by rw [returns]; exact isTrimmed_trim text.returns), returns]
  refine method?_eq_some_iff.mpr ⟨again, ?_, ?_⟩
  · rw [MethodChange.toList_signature, parameters]
    simp [again, MethodText.line, MethodText.tail, method, MethodParts.toMethod, MethodText.parts]
  · simp only [again, MethodText.parts, twice, shown]

/-- How methods are read off lines: the lines that are methods and the one way in which each of
    them is cut, at places between its characters. The count of open parentheses stays above
    none up to the one that closes, and from end to end where none does. A signature is read as
    the method that it is of, so that no two methods share one. -/
theorem method?_readsExactly (line : List Char) :
    (∀ parts, method? line = some parts ↔
      ∃ text : MethodText, text.line = line ∧ text.parts = parts) ∧
    (∀ text other : MethodText, text.line = line → other.line = line → text = other) ∧
    (∀ text : MethodText, text.line = line →
      StaysOpen 0 text.parameters ∧ text.IsCutAtBytes) ∧
    (method? line = none ↔
      ∀ name rest, IsName name → line = name ++ '(' :: rest → StaysOpen 0 rest) ∧
    ∀ parts, method? line = some parts → ∀ direction number,
      method? (parts.toMethod direction number).signature.toList = some parts ∧
      ∀ other others, method? other = some others → ∀ otherDirection otherNumber,
        (others.toMethod otherDirection otherNumber).signature =
            (parts.toMethod direction number).signature → others = parts := by
  refine ⟨fun parts => method?_eq_some_iff, ?_, ?_, method?_eq_none_iff, ?_⟩
  · intro text other same sameOther
    exact MethodText.line_injective (same.trans sameOther.symm)
  · intro text _
    exact ⟨text.balanced.prefixes, text.isCutAtBytes⟩
  · intro parts found direction number
    have read := method?_signature found direction number
    refine ⟨read, ?_⟩
    intro other others foundOther otherDirection otherNumber same
    have readOther := method?_signature foundOther otherDirection otherNumber
    rw [same, read] at readOther
    exact (Option.some.inj readOther).symm

theorem method?_readsExactly_of_walk :
    let line := "Walk( visit func(item Itemable) bool )error // per item".toList
    let parts : MethodParts :=
      ⟨"Walk".toList, "visit func(item Itemable) bool".toList, "error".toList⟩
    method? line = some parts ∧
      (parts.toMethod .added none).signature = "Walk(visit func(item Itemable) bool) error" ∧
      method? (parts.toMethod .added none).signature.toList = some parts := by
  intro line parts
  have found : method? line = some parts := by decide +kernel
  have read := (method?_readsExactly line).2.2.2.2 parts found .added none
  exact ⟨found, by decide +kernel, read.1⟩

end ReleaseDrift.Declaration
