import ReleaseDrift.Proofs.Text.Affix
import ReleaseDrift.Text.WordChar

/-!
Word characters are no blanks, and a text starts with the word that its characters up to the
first other one make up.
-/

namespace ReleaseDrift.Text

theorem wordRanges_apart_from_blanks :
    ∀ range ∈ wordRanges, 0xA0 < range.1 ∧ (range.2 < 0x1680 ∨ 0x1680 < range.1) ∧
      (range.2 < 0x2000 ∨ 0x200A < range.1) ∧ (range.2 < 0x2028 ∨ 0x2029 < range.1) ∧
      (range.2 < 0x202F ∨ 0x202F < range.1) ∧ (range.2 < 0x205F ∨ 0x205F < range.1) ∧
      (range.2 < 0x3000 ∨ 0x3000 < range.1) := by
  decide +kernel

theorem isAsciiLetter_iff (c : Char) :
    isAsciiLetter c = true ↔ (97 ≤ c.toNat ∧ c.toNat ≤ 122) ∨ (65 ≤ c.toNat ∧ c.toNat ≤ 90) := by
  simp [isAsciiLetter, Char.le_def, UInt32.le_iff_toNat_le]

theorem isDigit_iff (c : Char) : isDigit c = true ↔ 48 ≤ c.toNat ∧ c.toNat ≤ 57 := by
  simp [isDigit, Char.le_def, UInt32.le_iff_toNat_le]

theorem isBlank_iff (c : Char) :
    isBlank c = true ↔ (9 ≤ c.toNat ∧ c.toNat ≤ 13) ∨ c.toNat = 0x20 ∨ c.toNat = 0x85 ∨
      c.toNat = 0xA0 ∨ c.toNat = 0x1680 ∨ (0x2000 ≤ c.toNat ∧ c.toNat ≤ 0x200A) ∨
      c.toNat = 0x2028 ∨ c.toNat = 0x2029 ∨ c.toNat = 0x202F ∨ c.toNat = 0x205F ∨
      c.toNat = 0x3000 := by
  simp [isBlank, or_assoc]

theorem isBlank_eq_false_of_isWord {c : Char} (word : isWord c = true) : isBlank c = false := by
  rw [isWord] at word
  dsimp only at word
  rw [← Bool.not_eq_true, isBlank_iff]
  split at word
  · rw [Bool.or_eq_true, Bool.or_eq_true, isAsciiLetter_iff, isDigit_iff, beq_iff_eq] at word
    rcases word with (letter | digit) | rfl
    · omega
    · omega
    · decide
  · rw [List.any_eq_true] at word
    obtain ⟨range, member, inside⟩ := word
    have apart := wordRanges_apart_from_blanks range member
    simp only [Bool.and_eq_true, decide_eq_true_eq] at inside
    omega

theorem isWord_of_isNameStart {c : Char} (start : isNameStart c = true) : isWord c = true := by
  rw [isNameStart, Bool.or_eq_true, beq_iff_eq] at start
  rcases start with letter | rfl
  · have ascii : c.toNat < 128 := by
      rw [isAsciiLetter_iff] at letter
      omega
    simp [isWord, ascii, letter]
  · rfl

theorem takeWhile_append_stop {test : Char → Bool} {s tail : List Char}
    (inside : ∀ c ∈ s, test c = true) (stop : ∀ c ∈ tail.head?, test c = false) :
    (s ++ tail).takeWhile test = s := by
  rw [List.takeWhile_append_of_pos inside]
  cases tail with
  | nil => simp
  | cons c tail => simp [stop c rfl]

theorem dropWhile_append_stop {test : Char → Bool} {s tail : List Char}
    (inside : ∀ c ∈ s, test c = true) (stop : ∀ c ∈ tail.head?, test c = false) :
    (s ++ tail).dropWhile test = tail := by
  rw [List.dropWhile_append_of_pos inside]
  cases tail with
  | nil => simp
  | cons c tail => simp [stop c rfl]

theorem takeWhile_append_cons {test : Char → Bool} {c : Char} (stop : test c = false)
    (s tail : List Char) : (s ++ c :: tail).takeWhile test = s.takeWhile test := by
  induction s with
  | nil => simp [stop]
  | cons d s ih => rw [List.cons_append, List.takeWhile_cons, List.takeWhile_cons, ih]

theorem dropWhile_append_cons {test : Char → Bool} {c : Char} (stop : test c = false)
    (s tail : List Char) : (s ++ c :: tail).dropWhile test = s.dropWhile test ++ c :: tail := by
  induction s with
  | nil => simp [stop]
  | cons d s ih =>
      rw [List.cons_append, List.dropWhile_cons, List.dropWhile_cons, ih]
      split <;> rfl

end ReleaseDrift.Text
