import ReleaseDrift.Proofs.Text.Affix

/-!
A text around a mark: where its first and its last one stand, and the pieces between them.
-/

namespace ReleaseDrift.Text

theorem cut?_eq_none_iff {mark s : List Char} : cut? mark s = none ↔ ¬ mark <:+: s := by
  induction s with
  | nil => simp [cut?]
  | cons c s ih =>
      rw [cut?, List.infix_cons_iff, not_or, ← after?_eq_none_iff, ← ih]
      cases after? mark (c :: s) <;> simp

theorem cut?_eq_some_iff {mark s before tail : List Char} :
    cut? mark s = some (before, tail) ↔ s = before ++ mark ++ tail ∧
      ∀ earlier rest, s = earlier ++ mark ++ rest → before.length ≤ earlier.length := by
  induction s generalizing before with
  | nil =>
      rw [cut?, Option.ite_none_right_eq_some, List.isEmpty_iff]
      constructor
      · rintro ⟨rfl, same⟩
        cases same
        exact ⟨rfl, fun _ _ _ => Nat.zero_le _⟩
      · rintro ⟨whole, _⟩
        simp_all
  | cons c s ih =>
      cases start : after? mark (c :: s) with
      | some rest =>
          rw [cut?, start]
          rw [after?_eq_some_iff] at start
          constructor
          · intro same
            cases same
            exact ⟨start, fun _ _ _ => Nat.zero_le _⟩
          · rintro ⟨whole, first⟩
            have empty : before = [] :=
              List.eq_nil_of_length_eq_zero (Nat.le_zero.mp (first [] rest start))
            subst empty
            rw [start, List.nil_append] at whole
            rw [List.append_cancel_left whole]
      | none =>
          rw [cut?, start, Option.map_eq_some_iff]
          rw [after?_eq_none_iff] at start
          constructor
          · rintro ⟨⟨front, rest⟩, found, same⟩
            cases same
            obtain ⟨whole, first⟩ := ih.mp found
            refine ⟨by rw [whole]; rfl, ?_⟩
            intro earlier rest other
            cases earlier with
            | nil => exact absurd ⟨rest, other.symm⟩ start
            | cons d earlier =>
                rw [List.cons_append, List.cons_append] at other
                exact Nat.succ_le_succ (first earlier rest (List.cons.inj other).2)
          · rintro ⟨whole, first⟩
            cases before with
            | nil => exact absurd ⟨tail, whole.symm⟩ start
            | cons d before =>
                rw [List.cons_append, List.cons_append] at whole
                obtain ⟨rfl, inside⟩ := List.cons.inj whole
                refine ⟨(before, tail), ih.mpr ⟨inside, ?_⟩, rfl⟩
                intro earlier rest other
                have bound := first (c :: earlier) rest (by rw [other]; rfl)
                exact Nat.le_of_succ_le_succ bound

theorem eq_append_of_cutLast? {mark s before tail : List Char}
    (found : cutLast? mark s = some (before, tail)) : s = before ++ mark ++ tail := by
  induction s generalizing before with
  | nil =>
      rw [cutLast?, Option.ite_none_right_eq_some, List.isEmpty_iff] at found
      obtain ⟨rfl, same⟩ := found
      cases same
      rfl
  | cons c s ih =>
      rw [cutLast?] at found
      split at found
      · rename_i front later inside
        cases found
        rw [ih inside, List.cons_append, List.cons_append]
      · obtain ⟨rest, start, same⟩ := Option.map_eq_some_iff.mp found
        cases same
        exact (after?_eq_some_iff mark (c :: s) tail).mp start

theorem cutLast?_append {mark : Char} {tail : List Char} (absent : mark ∉ tail) (s : List Char) :
    cutLast? [mark] (s ++ mark :: tail) = some (s, tail) := by
  induction s with
  | nil =>
      have last : cutLast? [mark] tail = none :=
        cutLast?_eq_none_of_notMem List.mem_cons_self absent
      have found : after? [mark] (mark :: tail) = some tail := after?_append [mark] tail
      rw [List.nil_append, cutLast?, last, found, Option.map_some]
  | cons c s ih => rw [List.cons_append, cutLast?, ih]

/-- What follows the last mark of a text that starts with something that ends in one. -/
theorem snd_cutLast?_append {mark : Char} {lead tail : List Char}
    (ended : ∀ c ∈ lead.getLast?, c = mark) (absent : mark ∉ tail) :
    ((cutLast? [mark] (lead ++ tail)).map Prod.snd).getD (lead ++ tail) = tail := by
  cases last : lead.getLast? with
  | none =>
      obtain rfl := List.getLast?_eq_none_iff.mp last
      rw [List.nil_append, cutLast?_eq_none_of_notMem List.mem_cons_self absent]
      rfl
  | some c =>
      obtain ⟨front, rfl⟩ := List.getLast?_eq_some_iff.mp last
      obtain rfl := ended c last
      rw [List.append_assoc, List.singleton_append, cutLast?_append absent]
      rfl

section Pieces

variable {isMark : Char → Bool}

theorem pieces_ne_nil (s : List Char) : pieces isMark s ≠ [] := by
  fun_cases pieces isMark s <;> simp

theorem pieces_cons_of_unmarked {c : Char} (unmarked : isMark c = false) (s : List Char) :
    pieces isMark (c :: s) = (pieces isMark s).modifyHead (c :: ·) := by
  rw [pieces, unmarked]
  cases split : pieces isMark s with
  | nil => exact absurd split (pieces_ne_nil s)
  | cons piece more => rfl

theorem pieces_append {c : Char} (marked : isMark c = true) (s rest : List Char) :
    pieces isMark (s ++ c :: rest) = pieces isMark s ++ pieces isMark rest := by
  induction s with
  | nil => simp [pieces, marked]
  | cons d s ih =>
      cases other : isMark d with
      | true => simp [pieces, other, ih]
      | false =>
          obtain ⟨piece, more, split⟩ := List.exists_cons_of_ne_nil (pieces_ne_nil s)
          rw [List.cons_append, pieces_cons_of_unmarked other, pieces_cons_of_unmarked other, ih,
            split]
          rfl

theorem pieces_of_unmarked {s : List Char} (unmarked : ∀ c ∈ s, isMark c = false) :
    pieces isMark s = [s] := by
  induction s with
  | nil => rfl
  | cons c s ih =>
      rw [List.forall_mem_cons] at unmarked
      rw [pieces_cons_of_unmarked unmarked.1, ih unmarked.2, List.modifyHead_cons]

theorem flatten_pieces (s : List Char) : (pieces isMark s).flatten = s.filter (!isMark ·) := by
  induction s with
  | nil => rfl
  | cons c s ih =>
      cases marked : isMark c with
      | true => simp [pieces, marked, ih]
      | false =>
          obtain ⟨piece, more, split⟩ := List.exists_cons_of_ne_nil (pieces_ne_nil s)
          rw [split] at ih
          rw [pieces_cons_of_unmarked marked, split, List.filter_cons_of_pos (by simp [marked]),
            ← ih]
          rfl

end Pieces

end ReleaseDrift.Text
