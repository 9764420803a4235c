import Mathlib.Data.List.Infix
import Mathlib.Data.List.TakeWhile
import ReleaseDrift.Declaration.Line
import ReleaseDrift.Proofs.Text.WordChar

/-!
The recognisers of declarations on lines that are put together from a name and what follows it.
A line over the characters of declarations passes every exclusion, and each recogniser cuts it
where its parts meet.
-/

namespace ReleaseDrift.Declaration

open Text

def IsName : List Char → Prop
  | [] => False
  | first :: rest => isNameStart first ∧ ∀ c ∈ rest, isWord c

def IsExportedName : List Char → Prop
  | [] => False
  | first :: rest => ('A' ≤ first ∧ first ≤ 'Z') ∧ ∀ c ∈ rest, isWord c

instance : DecidablePred IsName
  | [] => inferInstanceAs (Decidable False)
  | first :: rest =>
      decidable_of_iff (isNameStart first ∧ rest.all isWord)
        (and_congr_right fun _ => List.all_eq_true)

instance : DecidablePred IsExportedName
  | [] => inferInstanceAs (Decidable False)
  | first :: rest =>
      decidable_of_iff (('A' ≤ first ∧ first ≤ 'Z') ∧ rest.all isWord)
        (and_congr_right fun _ => List.all_eq_true)

def isFieldTypeChar (c : Char) : Bool := isWord c || ".*[]".toList.contains c

def isSignatureChar (c : Char) : Bool := isFieldTypeChar c || " (),".toList.contains c

/-- Every parenthesis is closed, and none before it is opened. -/
structure IsBalanced (s : List Char) : Prop where
  prefixes : ∀ before, before <+: s → before.count ')' ≤ before.count '('
  whole : s.count ')' = s.count '('

instance (s : List Char) : Decidable (IsBalanced s) :=
  decidable_of_iff ((∀ before ∈ s.inits, before.count ')' ≤ before.count '(') ∧
      s.count ')' = s.count '(')
    ⟨fun balanced =>
        ⟨fun before start => balanced.1 before ((List.mem_inits _ _).mpr start), balanced.2⟩,
      fun balanced =>
        ⟨fun before member => balanced.prefixes before ((List.mem_inits _ _).mp member),
          balanced.whole⟩⟩

def withoutPointer : List Char → List Char
  | '*' :: type => type
  | type => type

theorem ne_of_isSignatureChar {c d : Char} (inside : isSignatureChar c = true)
    (outside : isSignatureChar d = false) : c ≠ d := by
  rintro rfl
  rw [inside] at outside
  contradiction

theorem notMem_of_isSignatureChar {s : List Char} (chars : ∀ c ∈ s, isSignatureChar c)
    {d : Char} (outside : isSignatureChar d = false) : d ∉ s :=
  fun member => ne_of_isSignatureChar (chars d member) outside rfl

theorem isSignatureChar_of_isFieldTypeChar {c : Char} (inside : isFieldTypeChar c = true) :
    isSignatureChar c = true := by
  rw [isSignatureChar, inside, Bool.true_or]

theorem isSignatureChar_of_isWord {c : Char} (word : isWord c = true) :
    isSignatureChar c = true := by
  rw [isSignatureChar, isFieldTypeChar, word, Bool.true_or, Bool.true_or]

theorem isNameStart_of_upperCase {c : Char} (upperCase : 'A' ≤ c ∧ c ≤ 'Z') :
    isNameStart c = true := by
  simp [isNameStart, isAsciiLetter, upperCase]

theorem IsExportedName.isName {name : List Char} (exported : IsExportedName name) :
    IsName name := by
  cases name with
  | nil => exact exported.elim
  | cons first rest =>
      exact ⟨isNameStart_of_upperCase exported.1, exported.2⟩

theorem IsName.words {name : List Char} (named : IsName name) : ∀ c ∈ name, isWord c := by
  cases name with
  | nil => exact named.elim
  | cons first rest =>
      rw [List.forall_mem_cons]
      exact ⟨isWord_of_isNameStart named.1, named.2⟩

theorem IsName.ne_nil {name : List Char} (named : IsName name) : name ≠ [] := by
  rintro rfl
  exact named

theorem IsName.endsPlain {name : List Char} (named : IsName name) : EndsPlain name :=
  fun c last => isBlank_eq_false_of_isWord (named.words c (List.mem_of_getLast? last))

theorem name?_append {name tail : List Char} (named : IsName name)
    (stop : ∀ c ∈ tail.head?, isWord c = false) : name? (name ++ tail) = some (name, tail) := by
  cases name with
  | nil => exact named.elim
  | cons first rest =>
      rw [List.cons_append, name?, if_pos named.1, takeWhile_append_stop named.2 stop,
        dropWhile_append_stop named.2 stop]

/-- How the lines of declarations start: with a pointer or with a name that stands for itself. -/
inductive Opening : List Char → Prop
  | pointer {name : List Char} (exported : IsExportedName name) : Opening ('*' :: name)
  | named {name tail : List Char} (exported : IsExportedName name)
      (stop : ∀ c ∈ tail.head?, isWord c = false) (undotted : tail.head? ≠ some '.') :
      Opening (name ++ tail)

theorem Opening.exists_head {line : List Char} (opening : Opening line) :
    ∃ first rest, line = first :: rest ∧ (first = '*' ∨ ('A' ≤ first ∧ first ≤ 'Z')) := by
  cases opening with
  | @pointer name exported => exact ⟨'*', name, rfl, Or.inl rfl⟩
  | @named name tail exported stop undotted =>
      cases name with
      | nil => exact exported.elim
      | cons first rest => exact ⟨first, rest ++ tail, rfl, Or.inr exported.1⟩

theorem Opening.startsPlain {line : List Char} (opening : Opening line) :
    ∀ c ∈ line.head?, isBlank c = false := by
  obtain ⟨first, rest, rfl, form⟩ := opening.exists_head
  intro c head
  obtain rfl : first = c := by simpa using head
  rcases form with rfl | upperCase
  · decide
  · exact isBlank_eq_false_of_isWord (isWord_of_isNameStart (isNameStart_of_upperCase upperCase))

theorem Opening.opens_eq_false {line : List Char} (opening : Opening line) (keyword : List Char) :
    opens keyword line = false := by
  have noType : after? "type".toList line = none := by
    rw [after?_eq_none_iff]
    intro start
    obtain ⟨first, rest, rfl, form⟩ := opening.exists_head
    have letters : "type".toList = 't' :: "ype".toList := rfl
    rw [letters, List.cons_prefix_cons] at start
    rw [← start.1] at form
    exact absurd form (by decide)
  rw [opens, noType]
  rfl

theorem Opening.exists_mem_isWord {line : List Char} (opening : Opening line) :
    ∃ c ∈ line, isWord c = true := by
  cases opening with
  | @pointer name exported =>
      obtain ⟨c, member⟩ := List.exists_mem_of_ne_nil name exported.isName.ne_nil
      exact ⟨c, List.mem_cons_of_mem _ member, exported.isName.words c member⟩
  | @named name tail exported stop undotted =>
      obtain ⟨c, member⟩ := List.exists_mem_of_ne_nil name exported.isName.ne_nil
      exact ⟨c, List.mem_append_left _ member, exported.isName.words c member⟩

theorem isComment_eq_false {line : List Char} (opening : Opening line) (noSlash : '/' ∉ line) :
    isComment line = false := by
  have slashed {mark : List Char} (inside : '/' ∈ mark) : startsWith mark line = false := by
    rw [startsWith, after?_eq_none_of_notMem inside noSlash]
    rfl
  have starless : line ≠ ['*'] ∧ startsWith "* ".toList line = false := by
    cases opening with
    | @pointer name exported =>
        cases name with
        | nil => exact exported.elim
        | cons first rest =>
            have shown := isBlank_eq_false_of_isWord (exported.isName.words first (by simp))
            refine ⟨by simp, ?_⟩
            by_cases blank : ' ' = first
            · rw [← blank] at shown
              contradiction
            · simp [startsWith, after?, blank]
    | @named name tail exported stop undotted =>
        cases name with
        | nil => exact exported.elim
        | cons first rest =>
            have word := exported.isName.words first (by simp)
            have apart : '*' ≠ first := by
              rintro rfl
              contradiction
            exact ⟨by simp [Ne.symm apart], by simp [startsWith, after?, apart]⟩
  rw [isComment, slashed (by decide), slashed (by decide), slashed (by decide), starless.2,
    beq_false_of_ne starless.1]
  rfl

theorem isBraceOnly_eq_false {line : List Char} (opening : Opening line) :
    isBraceOnly line = false := by
  obtain ⟨c, member, word⟩ := opening.exists_mem_isWord
  have shown := isBlank_eq_false_of_isWord word
  have marks : "\x7b\x7d()[];,".toList.any isWord = false := by decide
  have noMark : c ∉ "\x7b\x7d()[];,".toList := fun mark =>
    List.any_eq_false.mp marks c mark word
  rw [isBraceOnly, Bool.and_eq_false_iff]
  right
  rw [List.all_eq_false]
  exact ⟨c, member, by simpa [isBracket, shown, and_assoc] using noMark⟩

theorem startsWithWord_eq_false {words : List String} {line : List Char} (opening : Opening line)
    (small : ∀ word ∈ words, word.toList.head?.any ('Z' < ·)) :
    startsWithWord words line = false := by
  rw [startsWithWord, List.any_eq_false]
  intro word member same
  rw [beq_iff_eq] at same
  obtain ⟨first, rest, rfl, form⟩ := opening.exists_head
  have low := small word member
  rw [same, List.takeWhile_cons] at low
  split at low
  · rcases form with rfl | upperCase
    · contradiction
    · exact absurd upperCase.2 (Char.not_le.mpr (of_decide_eq_true low))
  · contradiction

theorem head?_of_isQuoted {s : List Char} (quoted : isQuoted s = true) : s.head? = some '"' := by
  unfold isQuoted at quoted
  split at quoted
  · rfl
  · contradiction

theorem suffix_of_skipBlanks? {s rest : List Char} (skipped : skipBlanks? s = some rest) :
    rest <:+ s := by
  cases s with
  | nil => contradiction
  | cons c s =>
      rw [skipBlanks?] at skipped
      split at skipped
      · cases skipped
        exact (List.dropWhile_suffix _).trans (List.suffix_cons c s)
      · contradiction

theorem isImport_eq_false {line : List Char} (noQuote : '"' ∉ line) : isImport line = false := by
  have unquoted {s : List Char} (part : s <:+ line) : isQuoted s = false :=
    Bool.eq_false_iff.mpr fun quoted =>
      noQuote (part.subset (List.mem_of_mem_head? (head?_of_isQuoted quoted)))
  cases line with
  | nil => rfl
  | cons c rest =>
      rw [isImport, unquoted List.suffix_rfl]
      cases found : skipBlanks? (rest.dropWhile isWord) with
      | none => simp
      | some path =>
          have part : path <:+ c :: rest :=
            ((suffix_of_skipBlanks? found).trans (List.dropWhile_suffix _)).trans
              (List.suffix_cons c rest)
          simp [unquoted part]

theorem hasAssignment_eq_false {line : List Char} (noEqual : '=' ∉ line) :
    hasAssignment line = false := by
  have marked : ∀ mark ∈ assignmentMarks, '=' ∈ mark := by decide
  induction line with
  | nil => rfl
  | cons c rest ih =>
      have restNoEqual : '=' ∉ rest := fun member => noEqual (List.mem_cons_of_mem c member)
      have noMark : startsWithAssignment rest = false := by
        rw [startsWithAssignment, List.any_eq_false]
        intro mark member
        rw [after?_eq_none_of_notMem (marked mark member) restNoEqual]
        exact Bool.false_ne_true
      have noShort : startsWith ":=".toList (c :: rest) = false := by
        rw [startsWith, after?_eq_none_of_notMem (by decide) noEqual]
        rfl
      rw [hasAssignment, ih restNoEqual, noMark, noShort, Bool.and_false]
      rfl

theorem isSelectorCall_append {name tail : List Char} (named : IsName name)
    (stop : ∀ c ∈ tail.head?, isWord c = false) (undotted : tail.head? ≠ some '.') :
    isSelectorCall (name ++ tail) = false := by
  cases name with
  | nil => exact named.elim
  | cons first rest =>
      have path : ∀ c ∈ rest, (isWord c || c == '.') = true := by
        intro c member
        rw [named.2 c member, Bool.true_or]
      have stopped : ∀ c ∈ tail.head?, (isWord c || c == '.') = false := by
        intro c head
        rw [stop c head, Bool.false_or, beq_eq_false_iff_ne]
        rintro rfl
        exact undotted head
      have noDot : '.' ∉ rest := by
        intro member
        have word := named.2 _ member
        contradiction
      rw [List.cons_append, isSelectorCall, takeWhile_append_stop path stopped,
        cutLast?_eq_none_of_notMem List.mem_cons_self noDot, Bool.and_false, Bool.false_and]

theorem isSelectorCall_eq_false {line : List Char} (opening : Opening line) :
    isSelectorCall line = false := by
  cases opening with
  | pointer exported => rfl
  | named exported stop undotted => exact isSelectorCall_append exported.isName stop undotted

theorem exclusion?_eq_none {line : List Char} (opening : Opening line)
    (chars : ∀ c ∈ line, isSignatureChar c) : exclusion? line = none := by
  have absent {d : Char} (outside : isSignatureChar d = false) : d ∉ line :=
    notMem_of_isSignatureChar chars outside
  have noStart : line.head? ≠ some '\x7d' := fun head =>
    absent (by decide) (List.mem_of_mem_head? head)
  have noEnd : line.getLast? ≠ some '\x7b' := fun last =>
    absent (by decide) (List.mem_of_getLast? last)
  have implementation : isImplementation line = false := by
    rw [isImplementation, startsWithWord_eq_false opening (by decide), beq_false_of_ne noStart,
      beq_false_of_ne noEnd, hasAssignment_eq_false (absent (by decide)),
      isSelectorCall_eq_false opening]
    rfl
  rw [exclusion?, isComment_eq_false opening (absent (by decide)), isBraceOnly_eq_false opening,
    startsWithWord_eq_false opening (by decide), isImport_eq_false (absent (by decide)),
    implementation]
  rfl

theorem isBlank_eq_false_of_isFieldTypeChar {c : Char} (inside : isFieldTypeChar c = true) :
    isBlank c = false := by
  have marks : ".*[]".toList.any isBlank = false := by decide
  rw [isFieldTypeChar, Bool.or_eq_true, List.contains_iff_mem] at inside
  rcases inside with word | mark
  · exact isBlank_eq_false_of_isWord word
  · exact Bool.eq_false_iff.mpr (List.any_eq_false.mp marks c mark)

theorem isTrailer_eq_false {s : List Char} (noSlash : '/' ∉ s)
    (shown : ∃ c ∈ s, isBlank c = false) : isTrailer s = false := by
  have filled : trimStart s ≠ [] := by
    rw [trimStart, Ne, List.dropWhile_eq_nil_iff]
    intro blank
    obtain ⟨c, member, notBlank⟩ := shown
    rw [blank c member] at notBlank
    contradiction
  have noMark : '/' ∉ trimStart s := fun member =>
    noSlash ((List.dropWhile_suffix _).subset member)
  rw [isTrailer, beq_false_of_ne filled, startsWith, after?_eq_none_of_notMem (by decide) noMark]
  rfl

theorem typeName?_append {name tail : List Char} (named : IsName name)
    (stop : ∀ c ∈ tail.head?, isWord c = false) (undotted : tail.head? ≠ some '.') :
    typeName? (name ++ tail) = some (name, tail) := by
  rw [typeName?, name?_append named stop, Option.bind_some]
  dsimp only
  split
  · contradiction
  · rfl

theorem embedded?_append {name tail : List Char} (exported : IsExportedName name)
    (stop : ∀ c ∈ tail.head?, isWord c = false) (undotted : tail.head? ≠ some '.') :
    embedded? (name ++ tail) = if isTrailer tail then some name else none := by
  have starless : ∀ rest, name ++ tail ≠ '*' :: rest := by
    intro rest same
    cases name with
    | nil => exact exported
    | cons first others =>
        obtain rfl : first = '*' := List.head_eq_of_cons_eq same
        exact absurd exported.1 (by decide)
  unfold embedded?
  split
  · rename_i found
    split at found
    · rename_i rest same
      exact absurd same (starless rest)
    · cases found
      rw [typeName?_append exported.isName stop undotted]
      rfl

theorem embedded?_type {type : List Char} (exported : IsExportedName (withoutPointer type)) :
    embedded? type = some type := by
  unfold withoutPointer at exported
  split at exported
  · rename_i name
    have whole : typeName? (name ++ []) = some (name, []) :=
      typeName?_append exported.isName (by simp) (by simp)
    rw [List.append_nil] at whole
    rw [embedded?]
    dsimp only
    rw [whole]
    rfl
  · have whole : embedded? (type ++ []) = if isTrailer [] then some type else none :=
      embedded?_append exported (by simp) (by simp)
    rw [List.append_nil] at whole
    rw [whole]
    rfl

/-- Balanced parentheses leave the depth as it is, so that the next one closes it. -/
theorem closing?_append {depth : Nat} {s : List Char} (rest : List Char)
    (prefixes : ∀ before, before <+: s → before.count ')' ≤ before.count '(' + depth)
    (whole : s.count ')' = s.count '(' + depth) :
    closing? depth (s ++ ')' :: rest) = some (s, rest) := by
  induction s generalizing depth with
  | nil =>
      obtain rfl : 0 = depth := by simpa using whole
      rfl
  | cons c s ih =>
      have inner (below : Nat)
          (same : below + (if c = ')' then 1 else 0) = depth + (if c = '(' then 1 else 0)) :
          closing? below (s ++ ')' :: rest) = some (s, rest) := by
        apply ih
        · intro before start
          have bound := prefixes (c :: before) (List.cons_prefix_cons.mpr ⟨rfl, start⟩)
          simp only [List.count_cons, beq_iff_eq] at bound
          omega
        · simp only [List.count_cons, beq_iff_eq] at whole
          omega
      by_cases opened : c = '('
      · have deeper := inner (depth + 1) (by simp [opened])
        rw [opened, List.cons_append, closing?, deeper]
        rfl
      · by_cases closed : c = ')'
        · have nested : 1 ≤ depth := by
            have bound := prefixes [c] (by simp)
            simp only [List.count_cons, List.count_nil, beq_iff_eq, closed, if_true] at bound
            simpa using bound
          obtain ⟨outer, rfl⟩ := Nat.exists_eq_add_of_le' nested
          have shallower := inner outer (by simp [closed])
          rw [closed, List.cons_append, closing?, shallower]
          rfl
        · have level := inner depth (by simp [opened, closed])
          rw [List.cons_append, closing?.eq_5 depth c _ opened (fun _ => closed)
            (fun _ _ => closed), level]
          rfl

theorem method?_append {name parameters : List Char} (tail : List Char)
    (named : IsName name) (balanced : IsBalanced parameters) :
    method? (name ++ '(' :: (parameters ++ ')' :: tail)) =
      some ⟨name, trim parameters, trim (beforeComment tail)⟩ := by
  have head : name? (name ++ '(' :: (parameters ++ ')' :: tail)) =
      some (name, '(' :: (parameters ++ ')' :: tail)) :=
    name?_append named (by simp; decide)
  have closed : closing? 0 (parameters ++ ')' :: tail) = some (parameters, tail) :=
    closing?_append tail balanced.prefixes balanced.whole
  simp only [method?, head, closed, Option.map_some]

theorem beforeComment_of_noSlash {s : List Char} (noSlash : '/' ∉ s) : beforeComment s = s := by
  rw [beforeComment, cut?_eq_none_of_notMem (by decide) noSlash]
  rfl

theorem field?_append {name type : List Char} (exported : IsExportedName name)
    (filled : type ≠ []) (chars : ∀ c ∈ type, isFieldTypeChar c) :
    field? (name ++ ' ' :: type) = some ⟨name, type⟩ := by
  have typeChars : ∀ c ∈ type, isTypeChar c = true := by
    intro c member
    have quote : c ≠ '\x60' := ne_of_isSignatureChar
      (isSignatureChar_of_isFieldTypeChar (chars c member)) (by decide)
    rw [isTypeChar, isBlank_eq_false_of_isFieldTypeChar (chars c member), bne_iff_ne.mpr quote]
    rfl
  have start : trimStart type = type := trimStart_of_plain fun c head =>
    isBlank_eq_false_of_isFieldTypeChar (chars c (List.mem_of_mem_head? head))
  have whole : type.takeWhile isTypeChar = type := List.takeWhile_eq_self_iff.mpr typeChars
  have nothing : type.dropWhile isTypeChar = [] := List.dropWhile_eq_nil_iff.mpr typeChars
  rw [field?, name?_append exported.isName (by simp; decide), Option.bind_some]
  dsimp only
  rw [skipBlanks?, if_pos (by decide), start, Option.bind_some, whole, nothing, if_pos]
  simp [filled, isFieldTail, isTrailer, trimStart]

theorem isExported_of_isExportedName {name : List Char} (exported : IsExportedName name) :
    isExported name = true := by
  cases name with
  | nil => exact exported.elim
  | cons first rest => simp [isExported, exported.1]

theorem opens_append {owner : List Char} (named : IsName owner) (keyword rest : List Char) :
    opens keyword ("type ".toList ++ owner ++ ' ' :: rest) =
      ((after? keyword (trimStart rest) |>.map trimStart).bind (after? ['\x7b'])).isSome := by
  have letters : "type ".toList ++ owner ++ ' ' :: rest =
      "type".toList ++ ' ' :: (owner ++ ' ' :: rest) := by
    simp
  have start : trimStart (owner ++ ' ' :: rest) = owner ++ ' ' :: rest := by
    cases owner with
    | nil => exact named.elim
    | cons first others =>
        exact List.dropWhile_cons_of_neg
          (by simp [isBlank_eq_false_of_isWord (named.words first List.mem_cons_self)])
  have name : name? (owner ++ ' ' :: rest) = some (owner, ' ' :: rest) :=
    name?_append named (by simp; decide)
  have blank : isBlank ' ' = true := by decide
  have noParameters : skipTypeParameters? (' ' :: rest) = some (' ' :: rest) := rfl
  simp only [letters, opens, after?_append, Option.bind_some, skipBlanks?, blank, if_true, start,
    name, Option.map_some, noParameters]

end ReleaseDrift.Declaration
