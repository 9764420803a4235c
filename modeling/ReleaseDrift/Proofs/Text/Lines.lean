import ReleaseDrift.Proofs.Text.Affix

/-!
The lines of a text that is put together from others: what stands before a line feed and what
stands after it are read apart.
-/

namespace ReleaseDrift.Text

theorem lines_feed (rest : List Char) : lines ('\n' :: rest) = [] :: lines rest := by
  rw [lines]

theorem lines_return {s : List Char} (feed : s.head? = some '\n') :
    lines ('\r' :: s) = lines s := by
  obtain ⟨rest, rfl⟩ := List.head?_eq_some_iff.mp feed
  rw [lines, lines]

theorem lines_cons {c : Char} (rest : List Char) (noFeed : c ≠ '\n')
    (noEnding : ¬ (c = '\r' ∧ rest.head? = some '\n')) :
    lines (c :: rest) = (c :: (lines rest).headD []) :: (lines rest).tail := by
  rw [lines.eq_4 c rest noFeed]
  · cases lines rest <;> rfl
  · rintro tail rfl rfl
    exact noEnding ⟨rfl, rfl⟩

theorem lines_ne_nil {s : List Char} (filled : s ≠ []) : lines s ≠ [] := by
  fun_cases lines s <;> simp_all

theorem lines_append_newline (s rest : List Char) :
    lines (s ++ '\n' :: rest) = lines (s ++ ['\n']) ++ lines rest := by
  induction s with
  | nil => simp [lines_feed, lines]
  | cons c s ih =>
      have sameHead : (s ++ '\n' :: rest).head? = (s ++ ['\n']).head? := by cases s <;> rfl
      by_cases feed : c = '\n'
      · simp [feed, lines_feed, ih]
      · by_cases ending : c = '\r' ∧ (s ++ ['\n']).head? = some '\n'
        · obtain ⟨rfl, head⟩ := ending
          rw [List.cons_append, List.cons_append, lines_return head,
            lines_return (sameHead.trans head), ih]
        · rw [List.cons_append, List.cons_append, lines_cons _ feed ending,
            lines_cons _ feed (by rwa [sameHead]), ih]
          obtain ⟨line, more, split⟩ :=
            List.exists_cons_of_ne_nil (lines_ne_nil (s := s ++ ['\n']) (by simp))
          simp [split]

theorem lines_single {s : List Char} (noFeed : '\n' ∉ s) (plain : EndsPlain s) :
    lines (s ++ ['\n']) = [s] := by
  induction s with
  | nil => rfl
  | cons c s ih =>
      simp only [List.mem_cons, not_or] at noFeed
      have ending : ¬ (c = '\r' ∧ (s ++ ['\n']).head? = some '\n') := by
        rintro ⟨rfl, head⟩
        cases s with
        | nil => exact absurd (plain '\r' rfl) (by decide)
        | cons d s => simp_all
      have plainTail : EndsPlain s := by
        intro d member
        cases s with
        | nil => simp at member
        | cons e s => exact plain d (by simpa using member)
      rw [List.cons_append, lines_cons _ (Ne.symm noFeed.1) ending, ih noFeed.2 plainTail]
      rfl

theorem lines_flatMap_feed {texts : List (List Char)} (noFeed : ∀ s ∈ texts, '\n' ∉ s)
    (plain : ∀ s ∈ texts, EndsPlain s) : lines (texts.flatMap (· ++ ['\n'])) = texts := by
  induction texts with
  | nil => rfl
  | cons s texts ih =>
      rw [List.forall_mem_cons] at noFeed plain
      rw [List.flatMap_cons, List.append_assoc, List.singleton_append, lines_append_newline,
        lines_single noFeed.1 plain.1, ih noFeed.2 plain.2, List.singleton_append]

theorem getLast?_flatMap_feed {texts : List (List Char)} (filled : texts ≠ []) :
    (texts.flatMap (· ++ ['\n'])).getLast? = some '\n' := by
  rw [← List.dropLast_concat_getLast filled, List.flatMap_append, List.flatMap_singleton,
    ← List.append_assoc, List.getLast?_concat]

def dropReturn (line : List Char) : List Char :=
  if line.getLast? = some '\r' then line.dropLast else line

theorem dropReturn_cons (c : Char) {line : List Char} (filled : line ≠ []) :
    dropReturn (c :: line) = c :: dropReturn line := by
  obtain ⟨d, rest, rfl⟩ := List.exists_cons_of_ne_nil filled
  simp only [dropReturn, List.getLast?_cons_cons, List.dropLast_cons_cons]
  split <;> rfl

theorem dropReturn_prefix_self (line : List Char) : dropReturn line <+: line := by
  unfold dropReturn
  split
  · exact line.dropLast_prefix
  · exact List.prefix_rfl

theorem prefix_dropReturn_iff {mark line : List Char} (noReturn : mark.getLast? ≠ some '\r') :
    mark <+: dropReturn line ↔ mark <+: line := by
  constructor
  · intro start
    exact start.trans (dropReturn_prefix_self line)
  · rintro ⟨tail, rfl⟩
    unfold dropReturn
    split
    · rename_i ending
      have filled : tail ≠ [] := by
        rintro rfl
        exact noReturn (by simpa using ending)
      rw [List.dropLast_append_of_ne_nil filled]
      exact List.prefix_append _ _
    · exact List.prefix_append _ _

theorem startsWith_dropReturn {mark : List Char} (noReturn : mark.getLast? ≠ some '\r')
    (line : List Char) : startsWith mark (dropReturn line) = startsWith mark line := by
  rw [Bool.eq_iff_iff, startsWith_iff, startsWith_iff, prefix_dropReturn_iff noReturn]

theorem trim_append_blank (s : List Char) {c : Char} (blank : isBlank c = true) :
    trim (s ++ [c]) = trim s := by
  rw [trim, trim, trimStart, List.dropWhile_append]
  split
  · rename_i empty
    rw [trimStart, List.isEmpty_iff.mp empty]
    simp [blank]
  · rw [trimEnd, List.reverse_append, List.reverse_singleton, List.singleton_append,
      List.dropWhile_cons_of_pos blank]
    rfl

theorem trim_dropReturn (line : List Char) : trim (dropReturn line) = trim line := by
  unfold dropReturn
  split
  · rename_i ending
    obtain ⟨front, rfl⟩ := List.getLast?_eq_some_iff.mp ending
    rw [List.dropLast_concat, trim_append_blank front rfl]
  · rfl

/-- A line feed put after a text that has none at its end takes a carriage return from the last
    line and changes nothing else. -/
theorem lines_append_feed {s : List Char} (filled : s ≠ []) (unended : s.getLast? ≠ some '\n') :
    ∃ front last, lines s = front ++ [last] ∧ last ≠ [] ∧
      lines (s ++ ['\n']) = front ++ [dropReturn last] := by
  induction s with
  | nil => contradiction
  | cons c s ih =>
      cases s with
      | nil =>
          have feed : c ≠ '\n' := by simpa using unended
          refine ⟨[], [c], ?_, by simp, ?_⟩
          · simp [lines_cons _ feed, lines]
          · by_cases isReturn : c = '\r'
            · subst c
              rfl
            · simp [lines_cons _ feed, isReturn, lines_feed, lines, dropReturn]
      | cons d s =>
          obtain ⟨front, last, split, lastFilled, extended⟩ :=
            ih (by simp) (by simpa using unended)
          by_cases feed : c = '\n'
          · refine ⟨[] :: front, last, ?_, lastFilled, ?_⟩
            · rw [feed, lines_feed, split, List.cons_append]
            · rw [feed, List.cons_append, lines_feed, extended, List.cons_append]
          · by_cases ending : c = '\r' ∧ d = '\n'
            · obtain ⟨rfl, rfl⟩ := ending
              refine ⟨front, last, ?_, lastFilled, ?_⟩
              · rw [lines_return rfl, split]
              · rw [List.cons_append, lines_return rfl, extended]
            · have split' := lines_cons (d :: s) feed (by simpa using ending)
              have extended' := lines_cons (d :: s ++ ['\n']) feed
                (by simpa using ending)
              cases front with
              | nil =>
                  refine ⟨[], c :: last, ?_, by simp, ?_⟩
                  · simp [split', split]
                  · rw [List.cons_append, extended', extended]
                    simp [dropReturn_cons c lastFilled]
              | cons line front =>
                  refine ⟨(c :: line) :: front, last, ?_, lastFilled, ?_⟩
                  · simp [split', split]
                  · rw [List.cons_append, extended', extended]
                    simp

theorem lines_of_noFeed {s : List Char} (filled : s ≠ []) (noFeed : '\n' ∉ s) : lines s = [s] := by
  induction s with
  | nil => contradiction
  | cons c s ih =>
      simp only [List.mem_cons, not_or] at noFeed
      have ending : ¬ (c = '\r' ∧ s.head? = some '\n') := by
        rintro ⟨_, head⟩
        exact noFeed.2 (List.mem_of_mem_head? head)
      rw [lines_cons s (Ne.symm noFeed.1) ending]
      cases s with
      | nil => rfl
      | cons d s =>
          rw [ih (by simp) noFeed.2]
          rfl

theorem lines_feed_of_noFeed {s : List Char} (noFeed : '\n' ∉ s) :
    lines (s ++ ['\n']) = [dropReturn s] := by
  by_cases filled : s = []
  · rw [filled]
    rfl
  · have unended : s.getLast? ≠ some '\n' := fun last => noFeed (List.mem_of_getLast? last)
    obtain ⟨front, last, whole, _, extended⟩ := lines_append_feed filled unended
    rw [lines_of_noFeed filled noFeed] at whole
    cases front with
    | nil =>
        cases whole
        exact extended
    | cons line front => simp at whole

theorem noFeed_of_mem_splitOn {s piece : List Char} (member : piece ∈ s.splitOn '\n') :
    '\n' ∉ piece := by
  induction s generalizing piece with
  | nil => simp_all
  | cons c s ih =>
      rw [List.splitOn_cons_eq_if_modifyHead] at member
      split at member
      · rcases List.mem_cons.mp member with rfl | later
        · simp
        · exact ih later
      · rename_i apart
        cases split : s.splitOn '\n' with
        | nil => simp [split] at member
        | cons first more =>
            rw [split, List.modifyHead_cons, List.mem_cons] at member
            rw [beq_iff_eq] at apart
            rcases member with rfl | later
            · simp [Ne.symm apart, ih (split ▸ List.mem_cons_self)]
            · exact ih (split ▸ List.mem_cons_of_mem _ later)

/-- The lines of a text by the pieces between its line feeds. -/
def linesOfPieces : List (List Char) → List (List Char)
  | [] => []
  | [last] => if last = [] then [] else [last]
  | piece :: rest => dropReturn piece :: linesOfPieces rest

theorem lines_intercalate {pieces : List (List Char)}
    (noFeed : ∀ piece ∈ pieces, '\n' ∉ piece) :
    lines (['\n'].intercalate pieces) = linesOfPieces pieces := by
  fun_induction linesOfPieces pieces with
  | case1 => rfl
  | case2 => rfl
  | case3 last filled =>
      rw [List.forall_mem_singleton] at noFeed
      rw [List.intercalate_singleton, lines_of_noFeed filled noFeed]
  | case4 piece rest several ih =>
      obtain ⟨next, more, rfl⟩ := List.exists_cons_of_ne_nil several
      rw [List.forall_mem_cons] at noFeed
      rw [List.intercalate_cons_cons, List.append_assoc, List.singleton_append,
        lines_append_newline, lines_feed_of_noFeed noFeed.1, ih noFeed.2]
      rfl

def mapLines (edit : List Char → List Char) (s : List Char) : List Char :=
  ['\n'].intercalate ((s.splitOn '\n').map edit)

/-- An edit that knows no line ending, and neither makes nor takes away an empty line. -/
structure IsLineEdit (edit : List Char → List Char) : Prop where
  noFeed : ∀ line, '\n' ∉ line → '\n' ∉ edit line
  empty : ∀ line, edit line = [] ↔ line = []
  ending : ∀ line, dropReturn (edit line) = edit (dropReturn line)

theorem linesOfPieces_map {edit : List Char → List Char} (isEdit : IsLineEdit edit)
    (pieces : List (List Char)) :
    linesOfPieces (pieces.map edit) = (linesOfPieces pieces).map edit := by
  fun_induction linesOfPieces pieces with
  | case1 => rfl
  | case2 => simp [linesOfPieces, isEdit.empty]
  | case3 last filled => simp [linesOfPieces, isEdit.empty, filled]
  | case4 piece rest filled ih =>
      rw [List.map_cons, linesOfPieces, ih, isEdit.ending, List.map_cons]
      simpa using filled

theorem lines_mapLines {edit : List Char → List Char} (isEdit : IsLineEdit edit)
    (s : List Char) : lines (mapLines edit s) = (lines s).map edit := by
  have given : lines s = linesOfPieces (s.splitOn '\n') := by
    rw [← lines_intercalate fun _ => noFeed_of_mem_splitOn, List.intercalate_splitOn]
  rw [given, mapLines, ← linesOfPieces_map isEdit]
  apply lines_intercalate
  intro line member
  obtain ⟨piece, inside, rfl⟩ := List.mem_map.mp member
  exact isEdit.noFeed piece (noFeed_of_mem_splitOn inside)

end ReleaseDrift.Text
