import ReleaseDrift.Proofs.Declaration.Assignment
import ReleaseDrift.Proofs.Declaration.Reading
import ReleaseDrift.Proofs.Declaration.Remark

/-!
Comments that hide the declaration before them. The search for lines that are left out goes through
the comment too: one with an assignment, one that ends in a brace and one that closes a quotation
turn the line into something else, and so does any behind a line that ends in an assignment mark.
No others do.
-/

namespace ReleaseDrift.Declaration

open Text

def IsGap (c : Char) : Prop := isBlank c = true ∨ c = '/'

instance : DecidablePred IsGap :=
  fun c => inferInstanceAs (Decidable (isBlank c = true ∨ c = '/'))

inductive Lead : List Char → Prop
  | pointer (line : List Char) : Lead ('*' :: line)
  | plain {name tail : List Char} (named : IsName name) (stop : ∀ c ∈ tail.head?, isWord c = false)
      (undotted : tail.head? ≠ some '.') : Lead (name ++ tail)
  | qualified {owner name tail : List Char} (first : IsName owner) (second : IsName name)
      (stop : ∀ c ∈ tail.head?, IsGap c) : Lead (owner ++ '.' :: (name ++ tail))

theorem isTrailer_head? {s : List Char} (ended : isTrailer s = true) :
    ∀ c ∈ s.head?, IsGap c := by
  intro c head
  obtain ⟨rest, rfl⟩ := List.head?_eq_some_iff.mp head
  refine or_iff_not_imp_left.mpr fun shown => ?_
  have start : trimStart (c :: rest) = c :: rest :=
    trimStart_of_plain (by simpa using shown)
  rw [isTrailer, start, Bool.or_eq_true, startsWith_iff] at ended
  rcases ended with none | mark
  · contradiction
  · exact (List.cons_prefix_cons.mp mark).1.symm

theorem IsGap.isWord_eq_false {c : Char} (gap : IsGap c) : isWord c = false := by
  rcases gap with blank | rfl
  · rw [← Bool.not_eq_true]
    intro word
    rw [isBlank_eq_false_of_isWord word] at blank
    contradiction
  · decide

theorem IsGap.ne_dot {c : Char} (gap : IsGap c) : c ≠ '.' := by
  rintro rfl
  revert gap
  decide

theorem Lead.of_typeName? {line type tail : List Char} (found : typeName? line = some (type, tail))
    (ended : isTrailer tail = true) : Lead line := by
  have gap := isTrailer_head? ended
  obtain ⟨⟨first, rest⟩, named, joined⟩ := Option.bind_eq_some_iff.mp found
  obtain ⟨rfl, isName, stop⟩ := name?_eq_some named
  dsimp only at joined
  split at joined
  · obtain ⟨⟨second, _⟩, inner, same⟩ := Option.map_eq_some_iff.mp joined
    cases same
    obtain ⟨rfl, isSecond, _⟩ := name?_eq_some inner
    exact .qualified isName isSecond gap
  · cases joined
    exact .plain isName stop fun head => (gap _ head).ne_dot rfl

theorem Lead.of_embedded? {line type : List Char} (found : embedded? line = some type) :
    Lead line := by
  by_cases star : line.head? = some '*'
  · obtain ⟨rest, rfl⟩ := List.head?_eq_some_iff.mp star
    exact .pointer rest
  · rw [embedded?_plain star] at found
    obtain ⟨⟨type, tail⟩, found, ended⟩ := Option.bind_eq_some_iff.mp found
    rw [Option.ite_none_right_eq_some] at ended
    exact .of_typeName? found ended.1

theorem Lead.of_method? {line : List Char} {parts : MethodParts}
    (found : method? line = some parts) : Lead line := by
  unfold method? at found
  split at found
  · rename_i name rest named
    obtain ⟨rfl, isName, stop⟩ := name?_eq_some named
    exact .plain isName stop (by simp)
  · contradiction

theorem Lead.of_field? {line : List Char} {parts : FieldParts}
    (found : field? line = some parts) : Lead line := by
  obtain ⟨⟨name, rest⟩, named, found⟩ := Option.bind_eq_some_iff.mp found
  obtain ⟨body, skipped, _⟩ := Option.bind_eq_some_iff.mp found
  obtain ⟨rfl, isName, stop⟩ := name?_eq_some named
  refine .plain isName stop fun head => ?_
  obtain ⟨tail, rfl⟩ := List.head?_eq_some_iff.mp head
  contradiction

theorem Declares.lead {line : List Char} {direction : Direction} {number : Nat} {block : Block}
    {change : Change} (declared : Declares line direction number block change) : Lead line := by
  cases declared with
  | embedded found => exact .of_embedded? found
  | method other found exported => exact .of_method? found
  | field other found exported => exact .of_field? found

theorem Declares.append_remark {line : List Char} {direction : Direction} {number : Nat}
    {block : Block} {change : Change} (declared : Declares line direction number block change)
    (uncommented : ¬ ['/', '/'] <:+: line) (comment : List Char) :
    Declares (line ++ remark comment) direction number block change := by
  cases declared with
  | embedded found => exact .embedded ((embedded?_append_remark line comment).trans found)
  | method other found exported =>
      exact .method ((embedded?_append_remark line comment).trans other)
        (method?_append_remark comment uncommented found) exported
  | field other found exported =>
      exact .field ((embedded?_append_remark line comment).trans other)
        (field?_append_remark comment uncommented found) exported

namespace Lead

variable {line : List Char}

theorem exists_head (lead : Lead line) :
    ∃ first rest, line = first :: rest ∧ (first = '*' ∨ isNameStart first = true) := by
  cases lead with
  | pointer rest => exact ⟨'*', rest, rfl, .inl rfl⟩
  | @plain name tail named _ _ =>
      cases name with
      | nil => exact named.elim
      | cons first rest => exact ⟨first, rest ++ tail, rfl, .inr named.1⟩
  | @qualified owner name tail named _ _ =>
      cases owner with
      | nil => exact named.elim
      | cons first rest => exact ⟨first, rest ++ '.' :: (name ++ tail), rfl, .inr named.1⟩

theorem ne_nil (lead : Lead line) : line ≠ [] := by
  obtain ⟨first, rest, rfl, _⟩ := lead.exists_head
  exact List.cons_ne_nil first rest

/-- A dotted name is recorded when a gap follows it, and never when a parenthesis does. -/
theorem isSelectorCall_eq_false (lead : Lead line) : isSelectorCall line = false := by
  cases lead with
  | pointer rest => rfl
  | plain named stop undotted => exact isSelectorCall_append named stop undotted
  | @qualified owner name tail first second stop =>
      cases owner with
      | nil => exact first.elim
      | cons c rest =>
          have path : ∀ d ∈ rest ++ '.' :: name, (isWord d || d == '.') = true := by
            rw [List.forall_mem_append, List.forall_mem_cons]
            refine ⟨fun d member => ?_, by decide, fun d member => ?_⟩
            · rw [first.2 d member, Bool.true_or]
            · rw [second.words d member, Bool.true_or]
          have stopped : ∀ d ∈ tail.head?, (isWord d || d == '.') = false := by
            intro d head
            rw [(stop d head).isWord_eq_false, beq_false_of_ne (stop d head).ne_dot]
            rfl
          have split : c :: rest ++ '.' :: (name ++ tail) = c :: (rest ++ '.' :: name ++ tail) := by
            simp
          rw [split, isSelectorCall, dropWhile_append_stop path stopped, Bool.and_eq_false_iff]
          right
          split
          · exact absurd (stop '(' rfl) (by decide)
          · rfl

theorem append_remark (lead : Lead line) (comment : List Char) : Lead (line ++ remark comment) := by
  cases lead with
  | pointer rest => exact .pointer _
  | @plain name tail named stop undotted =>
      rw [List.append_assoc]
      cases tail with
      | nil => exact .plain named (by simp [remark_eq]; decide) (by simp [remark_eq])
      | cons c tail => exact .plain named stop undotted
  | @qualified owner name tail first second stop =>
      rw [List.append_assoc, List.cons_append, List.append_assoc]
      refine .qualified first second ?_
      cases tail with
      | nil => simp [remark_eq]; decide
      | cons c tail => exact stop

end Lead

theorem isComment_append_remark {line : List Char} (filled : line ≠ []) (comment : List Char) :
    isComment (line ++ remark comment) = isComment line := by
  obtain ⟨c, rest, rfl⟩ := List.exists_cons_of_ne_nil filled
  have pair {a b : Char} (shown : b ≠ ' ') :
      startsWith [a, b] (c :: rest ++ remark comment) = startsWith [a, b] (c :: rest) := by
    rw [Bool.eq_iff_iff, startsWith_iff, startsWith_iff]
    cases rest <;> simp [List.cons_prefix_cons, remark_eq, shown]
  have star : ((c :: rest ++ remark comment == ['*']) ||
      startsWith ['*', ' '] (c :: rest ++ remark comment)) =
        ((c :: rest == ['*']) || startsWith ['*', ' '] (c :: rest)) := by
    rw [Bool.eq_iff_iff, Bool.or_eq_true, Bool.or_eq_true, startsWith_iff, startsWith_iff]
    cases rest <;> simp [List.cons_prefix_cons, remark_eq, eq_comm (a := '*')]
  have slashes : "//".toList = ['/', '/'] := rfl
  have opened : "/*".toList = ['/', '*'] := rfl
  have closed : "*/".toList = ['*', '/'] := rfl
  have item : "* ".toList = ['*', ' '] := rfl
  rw [isComment, isComment, slashes, opened, closed, item, pair (by decide), pair (by decide),
    pair (by decide), Bool.or_assoc, star, ← Bool.or_assoc]

theorem isBraceOnly_append_remark (line comment : List Char) :
    isBraceOnly (line ++ remark comment) = false := by
  rw [isBraceOnly, Bool.and_eq_false_iff, List.all_eq_false]
  exact .inr ⟨'/', by simp [remark_eq], by decide⟩

theorem startsWithWord_append_remark (words : List String) (line comment : List Char) :
    startsWithWord words (line ++ remark comment) = startsWithWord words line := by
  rw [startsWithWord, startsWithWord, remark_eq, takeWhile_append_cons (by decide)]

/-- The line is a name and the start of a quotation, the only quote of the comment is its end. -/
def ClosesQuotation (line comment : List Char) : Prop :=
  ∃ name blanks quoted front, IsName name ∧ blanks ≠ [] ∧ (∀ c ∈ blanks, isBlank c = true) ∧
    '"' ∉ quoted ∧ '"' ∉ front ∧ line = name ++ (blanks ++ '"' :: quoted) ∧
    comment = front ++ ['"']

theorem dropWhile_bne_eq_singleton_iff {mark : Char} {s : List Char} :
    s.dropWhile (· != mark) = [mark] ↔ ∃ front, mark ∉ front ∧ s = front ++ [mark] := by
  constructor
  · intro rest
    refine ⟨s.takeWhile (· != mark), fun inside => ?_, ?_⟩
    · simpa using List.mem_takeWhile_imp inside
    · rw [← rest, List.takeWhile_append_dropWhile]
  · rintro ⟨front, outside, rfl⟩
    refine dropWhile_append_stop (fun c member => ?_) (by simp)
    exact bne_iff_ne.mpr fun same => outside (same ▸ member)

theorem isQuoted_append_remark (s comment : List Char) :
    isQuoted (s ++ remark comment) = true ↔
      ∃ quoted front, '"' ∉ quoted ∧ '"' ∉ front ∧ s = '"' :: quoted ∧ comment = front ++ ['"'] := by
  by_cases quote : s.head? = some '"'
  · obtain ⟨quoted, rfl⟩ := List.head?_eq_some_iff.mp quote
    rw [List.cons_append, isQuoted, beq_iff_eq, dropWhile_bne_eq_singleton_iff]
    constructor
    · -- the closing quote is in the comment, as the mark before it ends in a blank
      rintro ⟨whole, outside, same⟩
      rcases List.eq_nil_or_concat comment with rfl | ⟨front, last, rfl⟩
      · have ends := congrArg List.getLast? same
        simp [remark_eq] at ends
      · rw [List.concat_eq_append, remark, ← List.append_assoc, ← List.append_assoc] at same
        obtain ⟨rfl, ending⟩ := List.append_inj' same rfl
        cases ending
        simp only [List.mem_append, not_or] at outside
        exact ⟨quoted, front, outside.1.1, outside.2, rfl, List.concat_eq_append⟩
    · rintro ⟨_, front, unquoted, outside, same, rfl⟩
      cases same
      exact ⟨quoted ++ remark front, by simp [remark_eq, unquoted, outside], by simp [remark]⟩
  · refine iff_of_false (fun quoted => ?_) (by rintro ⟨_, _, _, _, rfl, _⟩; exact quote rfl)
    have head := head?_of_isQuoted quoted
    cases s with
    | nil => contradiction
    | cons c s => exact quote head

theorem skipBlanks?_eq_some_cons_iff {s rest : List Char} {c : Char} :
    skipBlanks? s = some (c :: rest) ↔
      isBlank c = false ∧
        ∃ blanks, blanks ≠ [] ∧ (∀ d ∈ blanks, isBlank d = true) ∧ s = blanks ++ c :: rest := by
  constructor
  · intro skipped
    cases s with
    | nil => contradiction
    | cons b s =>
        rw [skipBlanks?, Option.ite_none_right_eq_some, Option.some.injEq, trimStart] at skipped
        obtain ⟨blank, tail⟩ := skipped
        have stopped := List.head?_dropWhile_not isBlank s
        rw [tail] at stopped
        refine ⟨stopped, b :: s.takeWhile isBlank, by simp, ?_, ?_⟩
        · rw [List.forall_mem_cons]
          exact ⟨blank, fun d member => List.mem_takeWhile_imp member⟩
        · rw [List.cons_append, ← tail, List.takeWhile_append_dropWhile]
  · rintro ⟨shown, blanks, filled, blank, rfl⟩
    obtain ⟨b, blanks, rfl⟩ := List.exists_cons_of_ne_nil filled
    rw [List.forall_mem_cons] at blank
    rw [List.cons_append, skipBlanks?, if_pos blank.1, trimStart,
      dropWhile_append_stop blank.2 (by simpa using shown)]

theorem quoted_skipBlanks?_append_remark (s comment : List Char) :
    ((skipBlanks? (s ++ remark comment)).map isQuoted).getD false =
      ((skipBlanks? s).map fun rest => isQuoted (rest ++ remark comment)).getD false := by
  cases s with
  | nil => rfl
  | cons c s =>
      rw [List.cons_append, skipBlanks?, skipBlanks?, trimStart_append]
      split
      · by_cases nothing : trimStart s = []
        · rw [if_pos nothing, nothing]
          rfl
        · rw [if_neg nothing]
          rfl
      · rfl

theorem isImport_append_remark {line : List Char} (lead : Lead line) (comment : List Char) :
    isImport (line ++ remark comment) = true ↔ ClosesQuotation line comment := by
  obtain ⟨first, rest, rfl, start⟩ := lead.exists_head
  have unquoted : isQuoted (first :: rest ++ remark comment) = false := by
    rw [← Bool.not_eq_true]
    intro quoted
    obtain rfl : first = '"' := Option.some.inj (head?_of_isQuoted quoted)
    exact absurd start (by decide)
  rw [List.cons_append] at unquoted ⊢
  rw [isImport, unquoted, Bool.false_or, Bool.and_eq_true, remark_eq,
    dropWhile_append_cons (by decide), ← remark_eq, quoted_skipBlanks?_append_remark]
  constructor
  · rintro ⟨named, quoted⟩
    cases skipped : skipBlanks? (rest.dropWhile isWord) with
    | none =>
        rw [skipped] at quoted
        contradiction
    | some body =>
        rw [skipped, Option.map_some, Option.getD_some, isQuoted_append_remark] at quoted
        obtain ⟨quoted, front, inside, outside, rfl, rfl⟩ := quoted
        obtain ⟨_, blanks, filled, blank, tail⟩ := skipBlanks?_eq_some_cons_iff.mp skipped
        refine ⟨first :: rest.takeWhile isWord, blanks, quoted, front, ⟨?_, ?_⟩, filled, blank,
          inside, outside, ?_, rfl⟩
        · rcases start with rfl | start
          · contradiction
          · exact start
        · exact fun c member => List.mem_takeWhile_imp member
        · rw [← tail, List.cons_append, List.takeWhile_append_dropWhile]
  · rintro ⟨name, blanks, quoted, front, named, filled, blank, inside, outside, same, rfl⟩
    obtain ⟨c, others, rfl⟩ := List.exists_cons_of_ne_nil named.ne_nil
    rw [List.cons_append] at same
    obtain ⟨rfl, rfl⟩ := List.cons.inj same
    have stop : ∀ c ∈ (blanks ++ '"' :: quoted).head?, isWord c = false := by
      obtain ⟨b, blanks, rfl⟩ := List.exists_cons_of_ne_nil filled
      intro c head
      cases head
      exact IsGap.isWord_eq_false (.inl (blank b List.mem_cons_self))
    have skipped : skipBlanks? (blanks ++ '"' :: quoted) = some ('"' :: quoted) :=
      skipBlanks?_eq_some_cons_iff.mpr ⟨by decide, blanks, filled, blank, rfl⟩
    refine ⟨by rw [named.1, Bool.true_or], ?_⟩
    rw [dropWhile_append_stop named.2 stop, skipped, Option.map_some, Option.getD_some,
      isQuoted_append_remark]
    exact ⟨quoted, front, inside, outside, rfl, rfl⟩

/-- The line reads like a statement with the comment behind it: an assignment that the line ends in
    or that the comment has, or a brace at the end. -/
inductive MakesStatement (line comment : List Char) : Prop
  | mark (ends : EndsInAssignment line)
  | assignment (assigns : Assigns (' ' :: comment))
  | brace (last : comment.getLast? = some '\x7b')

theorem assigns_remark_iff (comment : List Char) :
    Assigns (remark comment) ↔ Assigns (' ' :: comment) := by
  have slashes : remark comment = [' ', '/', '/'] ++ ' ' :: comment := rfl
  have none : ¬ (Assigns [' ', '/', '/'] ∨ EndsInAssignment [' ', '/', '/']) := by
    rw [← assigns_append_singleton_iff (c := ' ') (by decide), ← hasAssignment_iff]
    decide
  rw [slashes, assigns_append_iff (by decide), or_iff_right none]

theorem getLast?_append_remark {c : Char} (shown : c ≠ ' ') (line comment : List Char) :
    (line ++ remark comment).getLast? = some c ↔ comment.getLast? = some c := by
  rcases List.eq_nil_or_concat comment with rfl | ⟨front, last, rfl⟩
  · simp [remark_eq, shown.symm]
  · rw [List.concat_eq_append, remark, ← List.append_assoc, ← List.append_assoc,
      List.getLast?_concat, List.getLast?_concat]

theorem isImplementation_append_remark {line : List Char} (lead : Lead line)
    (kept : isImplementation line = false) (comment : List Char) :
    isImplementation (line ++ remark comment) = true ↔ MakesStatement line comment := by
  simp only [isImplementation, Bool.or_eq_false_iff] at kept
  obtain ⟨⟨⟨⟨statement, closed⟩, _⟩, unassigned⟩, _⟩ := kept
  have noAssignment : ¬ Assigns line := by
    rw [← hasAssignment_iff, unassigned]
    exact Bool.false_ne_true
  have assigned : hasAssignment (line ++ remark comment) = true ↔
      EndsInAssignment line ∨ Assigns (' ' :: comment) := by
    rw [hasAssignment_iff, remark_eq, assigns_append_iff (by decide), ← remark_eq,
      assigns_remark_iff, or_iff_right noAssignment]
  rw [isImplementation, startsWithWord_append_remark, statement,
    List.head?_append_of_ne_nil _ lead.ne_nil, closed,
    (lead.append_remark comment).isSelectorCall_eq_false, Bool.or_false, Bool.false_or,
    Bool.false_or, Bool.or_eq_true, assigned, beq_iff_eq, getLast?_append_remark (by decide)]
  constructor
  · rintro (last | ends | assigns)
    · exact .brace last
    · exact .mark ends
    · exact .assignment assigns
  · rintro (ends | assigns | last)
    · exact .inr (.inl ends)
    · exact .inr (.inr assigns)
    · exact .inl last

theorem exclusion?_append_remark {line : List Char} (lead : Lead line)
    (kept : exclusion? line = none) (comment : List Char) :
    exclusion? (line ++ remark comment) =
      if isImport (line ++ remark comment) then some .declaration
      else if isImplementation (line ++ remark comment) then some .implementation
      else none := by
  obtain ⟨uncommented, _, undeclared, _⟩ := exclusion?_eq_none_iff.mp kept
  rw [exclusion?, isComment_append_remark lead.ne_nil, uncommented,
    isBraceOnly_append_remark, startsWithWord_append_remark, undeclared.1]
  rfl

/-- A comment behind a declaration leaves its record as it is, except that it hides the declaration
    when it makes an import entry or a statement of the line. No other record is made of it. -/
theorem read_append_remark {line : List Char} {direction : Direction} {block : Block}
    {number : Nat} {change : Change} (uncommented : ¬ ['/', '/'] <:+: line)
    (recorded : read line direction block number = .change change) (comment : List Char) :
    (read (line ++ remark comment) direction block number = .change change ↔
      ¬ ClosesQuotation line comment ∧ ¬ MakesStatement line comment) ∧
    (ClosesQuotation line comment →
      read (line ++ remark comment) direction block number = .skipped .declaration) ∧
    (¬ ClosesQuotation line comment → MakesStatement line comment →
      read (line ++ remark comment) direction block number = .skipped .implementation) := by
  obtain ⟨filled, kept, declared⟩ := (read_eq_change_iff ..).mp recorded
  have lead := declared.lead
  have longer : line ++ remark comment ≠ [] := List.append_ne_nil_of_left_ne_nil filled _
  have excluded := exclusion?_append_remark lead kept comment
  have imports := isImport_append_remark lead comment
  have states := isImplementation_append_remark lead
    (exclusion?_eq_none_iff.mp kept).2.2.2 comment
  refine ⟨?_, fun closes => ?_, fun unclosed stated => ?_⟩
  · have passed : exclusion? (line ++ remark comment) = none ↔
        ¬ ClosesQuotation line comment ∧ ¬ MakesStatement line comment := by
      rw [excluded, ← imports, ← states]
      cases isImport (line ++ remark comment) <;>
        cases isImplementation (line ++ remark comment) <;> simp
    rw [read_eq_change_iff, passed]
    exact ⟨fun found => found.2.1,
      fun shown => ⟨longer, shown, declared.append_remark uncommented comment⟩⟩
  · rw [if_pos (imports.mpr closes)] at excluded
    exact read_eq_skipped longer excluded ..
  · rw [if_neg (mt imports.mp unclosed), if_pos (states.mpr stated)] at excluded
    exact read_eq_skipped longer excluded ..

theorem read_append_remark_of_brace :
    read ("Owner *string".toList ++ remark "see Group \x7b".toList) .removed .struct 2 =
      .skipped .implementation := by
  have recorded : read "Owner *string".toList .removed .struct 2 =
      .change (.field ⟨"Owner", "*string", .removed, some 2⟩) := by decide +kernel
  refine (read_append_remark (by decide) recorded _).2.2 ?_ (.brace (by decide))
  rintro ⟨name, blanks, quoted, front, _, _, _, _, _, same, _⟩
  have noQuote : '"' ∉ "Owner *string".toList := by decide
  exact noQuote (by simp [same])

theorem remark_with_assignment_hides :
    read "Owner *string".toList .removed .struct 2 =
        .change (.field ⟨"Owner", "*string", .removed, some 2⟩) ∧
      read ("Owner *string".toList ++ remark "default = none".toList) .removed .struct 2 =
        .skipped .implementation := by
  decide +kernel

end ReleaseDrift.Declaration
