import ReleaseDrift.Json.Reader
import ReleaseDrift.Json.Writer
import ReleaseDrift.Proofs.Text.WordChar

/-!
Strings and whole numbers in JSON text. What is written of them is read back, and whatever
follows is left over.
-/

namespace ReleaseDrift.Json

open Text

theorem escape_cases (c : Char) :
    (∃ letter, escape c = ['\\', letter] ∧ Written.escaped? letter = some c) ∨
    (c.toNat < 0x20 ∧ escape c =
      ['\\', 'u', '0', '0', hexDigitChar (c.toNat / 16), hexDigitChar (c.toNat % 16)]) ∨
    (0x20 ≤ c.toNat ∧ c ≠ '"' ∧ c ≠ '\\' ∧ escape c = [c]) := by
  unfold escape
  split
  · subst_vars
    exact Or.inl ⟨'"', rfl, rfl⟩
  split
  · subst_vars
    exact Or.inl ⟨'\\', rfl, rfl⟩
  split
  · subst_vars
    exact Or.inl ⟨'n', rfl, rfl⟩
  split
  · subst_vars
    exact Or.inl ⟨'r', rfl, rfl⟩
  split
  · subst_vars
    exact Or.inl ⟨'t', rfl, rfl⟩
  split
  · subst_vars
    exact Or.inl ⟨'b', rfl, rfl⟩
  split
  · subst_vars
    exact Or.inl ⟨'f', rfl, rfl⟩
  split
  · rename_i control
    exact Or.inr (Or.inl ⟨control, rfl⟩)
  · rename_i noQuote noSlash _ _ _ _ _ printed
    exact Or.inr (Or.inr ⟨by omega, noQuote, noSlash, rfl⟩)

namespace Written

theorem hexDigit?_hexDigitChar {n : Nat} (small : n < 16) :
    hexDigit? (hexDigitChar n) = some n := by
  revert n
  decide

def Unit.Denotes (c : Char) : Unit → Prop
  | .char d => d = c
  | .code n => n = c.toNat ∧ n < 0xD800

theorem joinUnits?_cons {unit : Unit} {c : Char} (denotes : unit.Denotes c) (units : List Unit) :
    joinUnits? (unit :: units) = (joinUnits? units).map (c :: ·) := by
  cases unit with
  | char d =>
      cases denotes
      rfl
  | code n =>
      obtain ⟨rfl, below⟩ := denotes
      have notHigh : ¬ (0xD800 ≤ c.toNat ∧ c.toNat < 0xDC00) := by omega
      have notLow : ¬ (0xDC00 ≤ c.toNat ∧ c.toNat < 0xE000) := by omega
      have single : ¬ (0xD800 ≤ c.toNat ∧ c.toNat < 0xE000) := by omega
      rcases units with _ | ⟨_ | low, units⟩
      · simp [joinUnits?, single]
      · simp [joinUnits?, single]
      · rw [joinUnits?, if_neg notHigh, if_neg notLow, Char.ofNat_toNat]

theorem units?_escape (c : Char) (rest : List Char) :
    ∃ unit : Unit, unit.Denotes c ∧ units? (escape c ++ rest) =
      (units? rest).map fun (units, rest) => (unit :: units, rest) := by
  rcases escape_cases c with ⟨letter, written, meant⟩ | ⟨control, written⟩ |
    ⟨printed, noQuote, noSlash, written⟩
  · refine ⟨.char c, rfl, ?_⟩
    have noCode : letter ≠ 'u' := by
      rintro rfl
      cases meant
    rw [written, List.cons_append, List.singleton_append, units?, meant, Option.bind_some]
    intro _ _ _ _ _ same _
    exact noCode same
  · refine ⟨.code c.toNat, ⟨rfl, by omega⟩, ?_⟩
    have high := hexDigit?_hexDigitChar (n := c.toNat / 16) (by omega)
    have low := hexDigit?_hexDigitChar (n := c.toNat % 16) (by omega)
    have zero : hexDigit? '0' = some 0 := by decide
    have value : (0 * 16 + 0 + c.toNat / 16) * 16 + c.toNat % 16 = c.toNat := by omega
    have code : hexUnit? '0' '0' (hexDigitChar (c.toNat / 16)) (hexDigitChar (c.toNat % 16)) =
        some c.toNat := by
      simp [hexUnit?, zero, high, low]
      omega
    rw [written]
    simp [units?, code]
  · refine ⟨.char c, rfl, ?_⟩
    rw [written, List.singleton_append, units?, if_neg (by omega)]
    · exact noQuote
    · intro _ _ _ _ _ same _
      exact noSlash same
    · intro _ _ same _
      exact noSlash same

theorem string?_quoted (text rest : List Char) :
    string? (text.flatMap escape ++ '"' :: rest) = some (some (String.ofList text), rest) := by
  have read : ∃ units, units? (text.flatMap escape ++ '"' :: rest) = some (units, rest) ∧
      joinUnits? units = some text := by
    induction text with
    | nil => exact ⟨[], by rw [List.flatMap_nil, List.nil_append, units?], rfl⟩
    | cons c text ih =>
        obtain ⟨units, found, joined⟩ := ih
        obtain ⟨unit, denotes, step⟩ := units?_escape c (text.flatMap escape ++ '"' :: rest)
        refine ⟨unit :: units, ?_, ?_⟩
        · rw [List.flatMap_cons, List.append_assoc, step, found, Option.map_some]
        · rw [joinUnits?_cons denotes, joined, Option.map_some]
  obtain ⟨units, found, joined⟩ := read
  simp only [string?, found, Option.map_some, joined]

/-- The text after a number does not go on with it. -/
def EndsNumber (rest : List Char) : Prop :=
  ∀ c ∈ rest.head?, isDigit c = false ∧ c ≠ '.' ∧ c ≠ 'e' ∧ c ≠ 'E'

theorem le_ofDigitChars (digits : List Char) (start : Nat) :
    start ≤ Nat.ofDigitChars 10 digits start := by
  induction digits generalizing start with
  | nil => exact Nat.le_refl _
  | cons c digits ih => exact le_trans (by omega) (ih (10 * start + (c.toNat - '0'.toNat)))

theorem foldl_pushInt (digits : List Char) (start : Nat)
    (fits : Nat.ofDigitChars 10 digits start ≤ maxSignificand) :
    digits.foldl Digits.pushInt { significand := start } =
      { significand := Nat.ofDigitChars 10 digits start } := by
  induction digits generalizing start with
  | nil => rfl
  | cons c digits ih =>
      have step : Nat.ofDigitChars 10 (c :: digits) start =
          Nat.ofDigitChars 10 digits (start * 10 + digitValue c) := by
        rw [Nat.mul_comm]
        rfl
      rw [step] at fits ⊢
      have small : ¬ start * 10 + digitValue c > maxSignificand :=
        not_lt.mpr (le_trans (le_ofDigitChars digits _) fits)
      rw [List.foldl_cons, Digits.pushInt]
      simp only [Bool.false_or, decide_eq_true_eq, if_neg small]
      exact ih _ fits

theorem digitChar_ne_zero : ∀ {n : Nat}, n < 10 → 0 < n → n.digitChar ≠ '0' := by decide

theorem toDigits_head {n : Nat} (positive : 0 < n) :
    ∃ c digits, Nat.toDigits 10 n = c :: digits ∧ c ≠ '0' := by
  induction n using Nat.strongRecOn with
  | ind n ih =>
      rw [Nat.toDigits_eq_if (by decide)]
      split
      · rename_i small
        exact ⟨n.digitChar, [], rfl, digitChar_ne_zero small positive⟩
      · obtain ⟨c, digits, written, notZero⟩ := ih (n / 10) (by omega) (by omega)
        exact ⟨c, digits ++ [(n % 10).digitChar], by rw [written]; rfl, notZero⟩

theorem isDigit_of_mem_toDigits {n : Nat} {c : Char} (member : c ∈ Nat.toDigits 10 n) :
    isDigit c = true := by
  have digit := Nat.isDigit_of_mem_toDigits (by decide) (by decide) member
  rw [Char.isDigit] at digit
  rw [isDigit]
  exact digit

theorem exists_toDigits (n : Nat) :
    ∃ c rest, Nat.toDigits 10 n = c :: rest ∧ isDigit c = true := by
  obtain ⟨c, rest, written⟩ := List.exists_cons_of_ne_nil (Nat.toDigits_ne_nil (b := 10) (n := n))
  exact ⟨c, rest, written, isDigit_of_mem_toDigits (n := n) (by simp [written])⟩

theorem unsigned?_toDigits (negative : Bool) {n : Nat} (fits : n ≤ maxSignificand)
    {rest : List Char} (ends : EndsNumber rest) :
    unsigned? negative (Nat.toDigits 10 n ++ rest) =
      some (integer? negative { significand := n }, rest) := by
  have digits : ∀ c ∈ Nat.toDigits 10 n, isDigit c = true := fun c => isDigit_of_mem_toDigits
  have stop : ∀ c ∈ rest.head?, isDigit c = false := fun c first => (ends c first).1
  have value : (Nat.toDigits 10 n).foldl Digits.pushInt {} = { significand := n } := by
    have whole := Nat.ofDigitChars_toDigits (b := 10) (n := n) (by decide) (by decide)
    have pushed := foldl_pushInt (Nat.toDigits 10 n) 0 (by rw [whole]; exact fits)
    rw [whole] at pushed
    exact pushed
  obtain ⟨c, more, written, -⟩ := exists_toDigits n
  rw [written] at digits value
  rw [List.forall_mem_cons] at digits
  have taken := takeWhile_append_stop digits.2 stop
  have left := dropWhile_append_stop digits.2 stop
  have alone : c = '0' → more = [] := by
    rintro rfl
    rcases Nat.eq_zero_or_pos n with rfl | positive
    · simpa using written.symm
    · obtain ⟨first, _, other, notZero⟩ := toDigits_head positive
      rw [written] at other
      exact absurd (List.cons.inj other).1.symm notZero
  rw [written, List.cons_append, ← value]
  by_cases zero : c = '0'
  · obtain rfl := alone zero
    subst zero
    rcases rest with _ | ⟨d, tail⟩
    · simp [unsigned?]
    · obtain ⟨noDigit, noPoint, noE, noBigE⟩ := ends d rfl
      simp [unsigned?, noDigit, noPoint, noE, noBigE]
  · rcases rest with _ | ⟨d, tail⟩
    · rw [List.append_nil] at taken left
      simp [unsigned?, digits.1, taken, left]
    · obtain ⟨noDigit, noPoint, noE, noBigE⟩ := ends d rfl
      simp [unsigned?, digits.1, taken, left, noPoint, noE, noBigE]

def IsWhole (n : Int) : Prop := -(Nat.pow 2 63 : Int) ≤ n ∧ n < (Nat.pow 2 64 : Int)

theorem number?_toDigits {n : Nat} (fits : n ≤ maxSignificand) {rest : List Char}
    (ends : EndsNumber rest) :
    number? (Nat.toDigits 10 n ++ rest) = some (some (.int n), rest) := by
  have read := unsigned?_toDigits false fits ends
  obtain ⟨c, more, written, digit⟩ := exists_toDigits n
  have noSign : c ≠ '-' := by
    rintro rfl
    cases digit
  rw [written, List.cons_append] at read ⊢
  rw [number?, read]
  · simp [integer?]
  · intro _ same
    exact noSign (List.cons.inj same).1

theorem toList_text_ofNat (n : Nat) :
    (Number.int (Int.ofNat n)).text.toList = Nat.toDigits 10 n := Nat.toList_repr

theorem toList_text_negSucc (n : Nat) :
    (Number.int (Int.negSucc n)).text.toList = '-' :: Nat.toDigits 10 (n + 1) := by
  have signed : (Number.int (Int.negSucc n)).text = "-" ++ (n + 1).repr := rfl
  rw [signed, String.toList_append, Nat.toList_repr]
  rfl

theorem exists_toList_text (n : Int) :
    ∃ c rest, (Number.int n).text.toList = c :: rest ∧ (c = '-' ∨ isDigit c = true) := by
  cases n with
  | ofNat n =>
      obtain ⟨c, rest, written, digit⟩ := exists_toDigits n
      exact ⟨c, rest, (toList_text_ofNat n).trans written, Or.inr digit⟩
  | negSucc n => exact ⟨'-', _, toList_text_negSucc n, Or.inl rfl⟩

theorem number?_text {n : Int} (whole : IsWhole n) {rest : List Char} (ends : EndsNumber rest) :
    number? ((Number.int n).text.toList ++ rest) = some (some (.int n), rest) := by
  obtain ⟨least, greatest⟩ := whole
  have limit : maxSignificand = Nat.pow 2 64 - 1 := rfl
  have powers : Nat.pow 2 64 = 2 * Nat.pow 2 63 := rfl
  cases n with
  | ofNat n =>
      have fits : (n : Int) < (Nat.pow 2 64 : Int) := greatest
      rw [toList_text_ofNat, number?_toDigits (by omega) ends]
      rfl
  | negSucc n =>
      have small : ¬ (n + 1 = 0 ∨ n + 1 > Nat.pow 2 63) := by omega
      rw [toList_text_negSucc, List.cons_append, number?,
        unsigned?_toDigits true (by omega) ends]
      simp only [integer?, small]
      simp [Int.negSucc_eq]

end Written

end ReleaseDrift.Json
