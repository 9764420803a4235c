import Mathlib.Data.List.Induction
import Mathlib.Data.List.TakeWhile
import ReleaseDrift.Text.Basic

/-!
Prefixes, blanks at the ends of a text, and cuts at a byte, said with the operations of
`List`.
-/

namespace ReleaseDrift.Text

theorem after?_eq_some_iff (lead s tail : List Char) :
    after? lead s = some tail ↔ s = lead ++ tail := by
  induction lead generalizing s with
  | nil => simp [after?]
  | cons l lead ih =>
      cases s with
      | nil => simp [after?]
      | cons c s =>
          by_cases same : l = c
          · simp [after?, same, ih]
          · simp [after?, same, Ne.symm same]

@[simp] theorem after?_append (lead tail : List Char) : after? lead (lead ++ tail) = some tail :=
  (after?_eq_some_iff lead _ tail).mpr rfl

theorem startsWith_iff (lead s : List Char) : startsWith lead s = true ↔ lead <+: s := by
  rw [startsWith, Option.isSome_iff_exists]
  constructor
  · rintro ⟨tail, found⟩
    exact ⟨tail, ((after?_eq_some_iff lead s tail).mp found).symm⟩
  · rintro ⟨tail, rfl⟩
    exact ⟨tail, after?_append lead tail⟩

theorem after?_eq_none_iff (lead s : List Char) : after? lead s = none ↔ ¬ lead <+: s := by
  rw [← startsWith_iff, startsWith]
  simp

def EndsPlain (s : List Char) : Prop := ∀ c ∈ s.getLast?, isBlank c = false

theorem all_not_isBlank_iff (edge : Option Char) :
    edge.all (!isBlank ·) = true ↔ ∀ c ∈ edge, isBlank c = false := by
  cases edge <;> simp

theorem all_getLast?_iff (s : List Char) :
    s.getLast?.all (!isBlank ·) = true ↔ EndsPlain s :=
  all_not_isBlank_iff s.getLast?

instance (s : List Char) : Decidable (EndsPlain s) := decidable_of_iff _ (all_getLast?_iff s)

theorem EndsPlain.append {left right : List Char} (leftPlain : EndsPlain left)
    (rightPlain : EndsPlain right) : EndsPlain (left ++ right) := by
  intro c member
  rw [List.getLast?_append, Option.mem_def, Option.or_eq_some_iff] at member
  rcases member with last | ⟨_, last⟩
  · exact rightPlain c last
  · exact leftPlain c last

theorem EndsPlain.append_left {right : List Char} (plain : EndsPlain right) (filled : right ≠ [])
    (left : List Char) : EndsPlain (left ++ right) := by
  have last := List.getLast?_eq_some_getLast filled
  rw [EndsPlain, List.getLast?_append, last, Option.some_or, ← last]
  exact plain

theorem trimEnd_of_endsPlain {s : List Char} (plain : EndsPlain s) : trimEnd s = s := by
  induction s using List.reverseRecOn with
  | nil => rfl
  | append_singleton s c _ =>
      have shown : isBlank c = false := plain c (by simp)
      simp [trimEnd, shown]

theorem trimStart_of_plain {s : List Char} (plain : ∀ c ∈ s.head?, isBlank c = false) :
    trimStart s = s := by
  cases s with
  | nil => rfl
  | cons c s => exact List.dropWhile_cons_of_neg (by simp [plain c rfl])

structure IsTrimmed (s : List Char) : Prop where
  startsPlain : ∀ c ∈ s.head?, isBlank c = false
  endsPlain : EndsPlain s

instance (s : List Char) : Decidable (IsTrimmed s) :=
  decidable_of_iff (s.head?.all (!isBlank ·) = true ∧ EndsPlain s)
    ⟨fun trimmed => ⟨(all_not_isBlank_iff s.head?).mp trimmed.1, trimmed.2⟩,
      fun trimmed => ⟨(all_not_isBlank_iff s.head?).mpr trimmed.startsPlain, trimmed.endsPlain⟩⟩

theorem trim_of_isTrimmed {s : List Char} (trimmed : IsTrimmed s) : trim s = s := by
  rw [trim, trimStart_of_plain trimmed.startsPlain, trimEnd_of_endsPlain trimmed.endsPlain]

theorem trimEnd_append (s : List Char) :
    trimEnd s ++ (s.reverse.takeWhile isBlank).reverse = s := by
  rw [trimEnd, ← List.reverse_append, List.takeWhile_append_dropWhile, List.reverse_reverse]

theorem endsPlain_trimEnd (s : List Char) : EndsPlain (trimEnd s) := by
  intro c last
  rw [trimEnd, List.getLast?_reverse] at last
  have stopped := List.head?_dropWhile_not isBlank s.reverse
  rw [Option.mem_def.mp last] at stopped
  exact stopped

theorem isTrimmed_trim (s : List Char) : IsTrimmed (trim s) where
  startsPlain := by
    intro c first
    have stopped := List.head?_dropWhile_not isBlank s
    have whole := trimEnd_append (trimStart s)
    rw [← trimStart, ← whole, ← trim, List.head?_append, Option.mem_def.mp first] at stopped
    exact stopped
  endsPlain := endsPlain_trimEnd (trimStart s)

theorem exists_trim (s : List Char) :
    ∃ lead rest, s = lead ++ (trim s ++ rest) ∧ (∀ c ∈ lead, isBlank c = true) ∧
      ∀ c ∈ rest, isBlank c = true := by
  refine ⟨s.takeWhile isBlank, ((trimStart s).reverse.takeWhile isBlank).reverse, ?_, ?_, ?_⟩
  · rw [trim, trimEnd_append, trimStart, List.takeWhile_append_dropWhile]
  · intro c member
    exact List.mem_takeWhile_imp member
  · intro c member
    exact List.mem_takeWhile_imp (List.mem_reverse.mp member)

theorem trim_eq_nil_iff (s : List Char) : trim s = [] ↔ ∀ c ∈ s, isBlank c = true := by
  constructor
  · intro empty
    obtain ⟨lead, rest, split, leadBlank, restBlank⟩ := exists_trim s
    rw [split, empty, List.nil_append]
    intro c member
    exact (List.mem_append.mp member).elim (leadBlank c) (restBlank c)
  · intro blank
    have start : trimStart s = [] := List.dropWhile_eq_nil_iff.mpr blank
    rw [trim, start]
    rfl

theorem trim_append_of_isTrimmed {blanks s : List Char} (blank : ∀ c ∈ blanks, isBlank c = true)
    (trimmed : IsTrimmed s) : trim (blanks ++ s) = s := by
  have start : trimStart (blanks ++ s) = trimStart s := List.dropWhile_append_of_pos blank
  rw [trim, start, ← trim, trim_of_isTrimmed trimmed]

theorem after?_eq_none_of_notMem {mark s : List Char} {c : Char} (inside : c ∈ mark)
    (absent : c ∉ s) : after? mark s = none := by
  rw [after?_eq_none_iff]
  intro start
  exact absent (start.subset inside)

theorem cut?_eq_none_of_notMem {mark s : List Char} {c : Char} (inside : c ∈ mark)
    (absent : c ∉ s) : cut? mark s = none := by
  induction s with
  | nil => simp [cut?, List.ne_nil_of_mem inside]
  | cons d s ih =>
      have rest : c ∉ s := fun member => absent (List.mem_cons_of_mem d member)
      rw [cut?, after?_eq_none_of_notMem inside absent, ih rest, Option.map_none]

theorem cutLast?_eq_none_of_notMem {mark s : List Char} {c : Char} (inside : c ∈ mark)
    (absent : c ∉ s) : cutLast? mark s = none := by
  induction s with
  | nil => simp [cutLast?, List.ne_nil_of_mem inside]
  | cons d s ih =>
      have rest : c ∉ s := fun member => absent (List.mem_cons_of_mem d member)
      rw [cutLast?, ih rest, after?_eq_none_of_notMem inside absent, Option.map_none]

theorem byteLength_append (left right : List Char) :
    byteLength (left ++ right) = byteLength left + byteLength right := by
  induction left with
  | nil => simp [byteLength]
  | cons c left ih => rw [List.cons_append, byteLength, ih, byteLength, Nat.add_assoc]

theorem cutAtByte?_append (left right : List Char) :
    cutAtByte? (byteLength left) (left ++ right) = some (left, right) := by
  induction left with
  | nil => simp [byteLength, cutAtByte?]
  | cons c left ih =>
      have positive := c.utf8Size_pos
      have size : byteLength (c :: left) = c.utf8Size + byteLength left := rfl
      obtain ⟨count, successor⟩ : ∃ count, byteLength (c :: left) = count + 1 :=
        ⟨c.utf8Size + byteLength left - 1, by omega⟩
      have rest : count + 1 - c.utf8Size = byteLength left := by omega
      rw [successor, List.cons_append, cutAtByte?, if_pos (by omega), rest, ih]
      rfl

theorem cutAtByte?_eq_some_iff {n : Nat} {s before tail : List Char} :
    cutAtByte? n s = some (before, tail) ↔ s = before ++ tail ∧ byteLength before = n := by
  constructor
  · intro found
    fun_induction cutAtByte? n s generalizing before with
    | case1 s =>
        cases found
        exact ⟨rfl, rfl⟩
    | case2 => cases found
    | case3 n c rest fits ih =>
        obtain ⟨⟨front, back⟩, inside, same⟩ := Option.map_eq_some_iff.mp found
        cases same
        obtain ⟨rfl, size⟩ := ih inside
        refine ⟨rfl, ?_⟩
        rw [byteLength, size]
        omega
    | case4 => cases found
  · rintro ⟨rfl, rfl⟩
    exact cutAtByte?_append before tail

end ReleaseDrift.Text
