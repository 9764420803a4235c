import ReleaseDrift.Proofs.Declaration.Recognition
import ReleaseDrift.Proofs.Text.Cut
import ReleaseDrift.Proofs.Text.Lines

/-!
Declarations with a comment behind them. A comment begins with a blank, where no name and no type
goes on, and every recogniser passes over the rest: it finds what it finds without the comment.
-/

namespace ReleaseDrift.Declaration

open Text

def remark (comment : List Char) : List Char := " // ".toList ++ comment

theorem remark_eq (comment : List Char) : remark comment = ' ' :: '/' :: '/' :: ' ' :: comment := rfl

theorem name?_eq_some {s name tail : List Char} (found : name? s = some (name, tail)) :
    s = name ++ tail ∧ IsName name ∧ ∀ c ∈ tail.head?, isWord c = false := by
  cases s with
  | nil => contradiction
  | cons c s =>
      rw [name?, Option.ite_none_right_eq_some] at found
      obtain ⟨start, same⟩ := found
      cases same
      refine ⟨?_, ⟨start, fun d member => List.mem_takeWhile_imp member⟩, fun d head => ?_⟩
      · rw [List.cons_append, List.takeWhile_append_dropWhile]
      · have stopped := List.head?_dropWhile_not isWord s
        rw [Option.mem_def.mp head] at stopped
        exact stopped

theorem eq_append_of_closing? {depth : Nat} {s before tail : List Char}
    (closed : closing? depth s = some (before, tail)) : s = before ++ ')' :: tail := by
  fun_induction closing? depth s generalizing before with
  | case1 => contradiction
  | case3 rest =>
      cases closed
      rfl
  | case2 _ _ ih | case4 _ _ ih | case5 _ _ _ _ _ _ ih =>
      obtain ⟨⟨inside, _⟩, found, same⟩ := Option.map_eq_some_iff.mp closed
      cases same
      rw [ih found, List.cons_append]

section Recognisers

variable (s comment : List Char)

theorem trimStart_append (tail : List Char) :
    trimStart (s ++ tail) = if trimStart s = [] then trimStart tail else trimStart s ++ tail := by
  rw [trimStart, List.dropWhile_append]
  by_cases blank : s.dropWhile isBlank = [] <;> simp [trimStart, blank]

theorem isTrailer_append_remark : isTrailer (s ++ remark comment) = isTrailer s := by
  rw [isTrailer, isTrailer, trimStart_append]
  cases start : trimStart s with
  | nil => rfl
  | cons c rest =>
      have second : startsWith "//".toList (c :: rest ++ remark comment) =
          startsWith "//".toList (c :: rest) := by
        rw [Bool.eq_iff_iff, startsWith_iff, startsWith_iff]
        cases rest <;> simp [List.cons_prefix_cons, remark_eq]
      rw [if_neg (List.cons_ne_nil c rest), second]
      rfl

theorem name?_append_remark :
    name? (s ++ remark comment) =
      (name? s).map fun (name, tail) => (name, tail ++ remark comment) := by
  cases s with
  | nil => rfl
  | cons c s =>
      have stop : isWord ' ' = false := by decide
      rw [List.cons_append, name?, name?, remark_eq, takeWhile_append_cons stop,
        dropWhile_append_cons stop]
      split <;> rfl

theorem typeName?_append_remark :
    typeName? (s ++ remark comment) =
      (typeName? s).map fun (name, tail) => (name, tail ++ remark comment) := by
  rw [typeName?, typeName?, name?_append_remark]
  cases name? s with
  | none => rfl
  | some parts =>
      obtain ⟨first, rest⟩ := parts
      cases rest with
      | nil => rfl
      | cons c rest =>
          by_cases dotted : c = '.'
          · subst dotted
            simp only [Option.map_some, Option.bind_some, List.cons_append, name?_append_remark]
            cases name? rest <;> rfl
          · simp [dotted]

theorem embedded?_plain {line : List Char} (starless : line.head? ≠ some '*') :
    embedded? line =
      (typeName? line).bind fun (type, tail) => if isTrailer tail then some type else none := by
  unfold embedded?
  split
  rename_i parts
  split at parts
  · contradiction
  · cases parts
    rfl

theorem embedded?_append_remark : embedded? (s ++ remark comment) = embedded? s := by
  have passed (star : List Char) (line : List Char) :
      ((typeName? (line ++ remark comment)).bind fun (type, tail) =>
          if isTrailer tail then some (star ++ type) else none) =
        (typeName? line).bind fun (type, tail) =>
          if isTrailer tail then some (star ++ type) else none := by
    rw [typeName?_append_remark]
    cases typeName? line with
    | none => rfl
    | some parts => simp only [Option.map_some, Option.bind_some, isTrailer_append_remark]
  cases s with
  | nil => rfl
  | cons c s =>
      by_cases star : c = '*'
      · subst star
        exact passed ['*'] s
      · rw [embedded?_plain (by simpa using star), embedded?_plain (by simpa using star)]
        exact passed [] (c :: s)

theorem skipBlanks?_append_remark {s rest : List Char} (skipped : skipBlanks? s = some rest)
    (filled : rest ≠ []) : skipBlanks? (s ++ remark comment) = some (rest ++ remark comment) := by
  cases s with
  | nil => contradiction
  | cons c s =>
      rw [skipBlanks?, Option.ite_none_right_eq_some] at skipped
      obtain ⟨blank, same⟩ := skipped
      cases same
      rw [List.cons_append, skipBlanks?, if_pos blank, trimStart_append, if_neg filled]

theorem closing?_append_right {depth : Nat} {s before tail : List Char}
    (closed : closing? depth s = some (before, tail)) (more : List Char) :
    closing? depth (s ++ more) = some (before, tail ++ more) := by
  fun_induction closing? depth s generalizing before with
  | case1 => contradiction
  | case3 rest =>
      cases closed
      rfl
  | case2 _ _ ih | case4 _ _ ih =>
      obtain ⟨⟨inside, _⟩, found, same⟩ := Option.map_eq_some_iff.mp closed
      cases same
      rw [List.cons_append, closing?, ih found]
      rfl
  | case5 depth c rest opened notLast notInner ih =>
      obtain ⟨⟨inside, _⟩, found, same⟩ := Option.map_eq_some_iff.mp closed
      cases same
      rw [List.cons_append, closing?.eq_5 depth c _ opened notLast notInner, ih found]
      rfl

/-- The first comment mark is that of the remark, when there is none before it. -/
theorem cut?_append_remark {s : List Char} (uncommented : ¬ ['/', '/'] <:+: s) :
    cut? ['/', '/'] (s ++ remark comment) = some (s ++ [' '], ' ' :: comment) := by
  induction s with
  | nil => rfl
  | cons c s ih =>
      rw [List.infix_cons_iff, not_or] at uncommented
      have noStart : after? ['/', '/'] (c :: (s ++ remark comment)) = none := by
        rw [after?_eq_none_iff]
        cases s with
        | nil => simp [remark_eq]
        | cons d s => simpa [List.cons_prefix_cons] using uncommented.1
      rw [List.cons_append, cut?, noStart, ih uncommented.2]
      rfl

theorem trim_beforeComment_append_remark {s : List Char} (uncommented : ¬ ['/', '/'] <:+: s) :
    trim (beforeComment (s ++ remark comment)) = trim (beforeComment s) := by
  have mark : "//".toList = ['/', '/'] := rfl
  rw [beforeComment, beforeComment, mark, cut?_append_remark comment uncommented,
    cut?_eq_none_iff.mpr uncommented]
  exact trim_append_blank s (by decide)

theorem method?_append_remark {s : List Char} {parts : MethodParts}
    (uncommented : ¬ ['/', '/'] <:+: s) (found : method? s = some parts) :
    method? (s ++ remark comment) = some parts := by
  unfold method? at found
  split at found
  · rename_i name rest named
    obtain ⟨⟨parameters, tail⟩, closed, rfl⟩ := Option.map_eq_some_iff.mp found
    have longer : name? (s ++ remark comment) = some (name, '(' :: (rest ++ remark comment)) := by
      rw [name?_append_remark, named]
      rfl
    have part : tail <:+ s := by
      rw [(name?_eq_some named).1, eq_append_of_closing? closed]
      exact ⟨name ++ '(' :: (parameters ++ [')']), by simp⟩
    have inside : ¬ ['/', '/'] <:+: tail := fun mark => uncommented (mark.trans part.isInfix)
    simp only [method?, longer, closing?_append_right closed, Option.map_some,
      trim_beforeComment_append_remark comment inside]
  · contradiction

theorem isFieldTail_append_remark {s : List Char} (ended : isFieldTail s = true) :
    isFieldTail (s ++ remark comment) = true := by
  rw [isFieldTail, Bool.or_eq_true] at ended
  rw [isFieldTail, Bool.or_eq_true, isTrailer_append_remark]
  refine ended.imp_right fun tagged => ?_
  split at tagged
  · rename_i rest skipped
    split at tagged
    · rename_i quote tail tag
      have closed : (rest ++ remark comment).dropWhile (· != '\x60') =
          quote :: (tail ++ remark comment) := by
        rw [List.dropWhile_append, tag]
        rfl
      rw [skipBlanks?_append_remark comment skipped (List.cons_ne_nil _ _)]
      simp only [List.cons_append, closed, isTrailer_append_remark, tagged]
    · contradiction
  · contradiction

theorem field?_append_remark {s : List Char} {parts : FieldParts}
    (uncommented : ¬ ['/', '/'] <:+: s) (found : field? s = some parts) :
    field? (s ++ remark comment) = some parts := by
  obtain ⟨⟨name, rest⟩, named, found⟩ := Option.bind_eq_some_iff.mp found
  obtain ⟨body, skipped, found⟩ := Option.bind_eq_some_iff.mp found
  have stop : isTypeChar ' ' = false := by decide
  dsimp only at skipped found
  split at found
  · rename_i complete
    have filled : body ≠ [] := by
      rintro rfl
      contradiction
    rw [Bool.and_eq_true] at complete
    rw [field?, name?_append_remark, named, Option.map_some, Option.bind_some]
    dsimp only
    rw [skipBlanks?_append_remark comment skipped filled, Option.bind_some, remark_eq,
      takeWhile_append_cons stop, dropWhile_append_cons stop, ← remark_eq, complete.1,
      isFieldTail_append_remark comment complete.2]
    exact found
  · -- a comment that touches the type is not there
    split at found
    · rename_i first before tail touching
      have type : body.takeWhile isTypeChar = first :: before ++ "//".toList ++ tail :=
        eq_append_of_cutLast? touching
      have mark : ['/', '/'] <:+: body.takeWhile isTypeChar := ⟨first :: before, tail, type.symm⟩
      have part : body.takeWhile isTypeChar <:+: s := by
        rw [(name?_eq_some named).1]
        exact (List.takeWhile_prefix _).isInfix.trans
          ((suffix_of_skipBlanks? skipped).trans (List.suffix_append name rest)).isInfix
      exact absurd (mark.trans part) uncommented
    · contradiction

end Recognisers

end ReleaseDrift.Declaration
