import Mathlib.Data.Nat.Bitwise
import ReleaseDrift.Text.UpperCase

/-!
Every character has an upper case, and the first character of an upper case is its own.
-/

namespace ReleaseDrift.Text

def CaseRun.codes (run : CaseRun) : List Nat :=
  List.range' run.first ((run.last - run.first) / run.step + 1) run.step

theorem CaseRun.mem_codes {run : CaseRun} {n : Nat} (covered : run.covers n = true) :
    n ∈ run.codes := by
  simp only [covers, Bool.and_eq_true, decide_eq_true_eq, beq_iff_eq] at covered
  obtain ⟨⟨lower, upper⟩, onStep⟩ := covered
  rw [codes, List.mem_range']
  refine ⟨(n - run.first) / run.step, ?_, ?_⟩
  · have distance : n - run.first ≤ run.last - run.first := by omega
    exact Nat.lt_succ_of_le (Nat.div_le_div_right distance)
  · rw [Nat.mul_div_cancel' (Nat.dvd_of_mod_eq_zero onStep)]
    omega

def casedCodes : List Nat := caseExpansions.map Prod.fst ++ caseRuns.flatMap CaseRun.codes

def raisedCodes : List (List Nat) :=
  caseExpansions.map Prod.snd ++
    caseRuns.flatMap fun run => run.codes.map fun (n : Nat) => [(n + run.shift).toNat]

theorem upperCodes_cases (n : Nat) :
    upperCodes n = [n] ∨ n ∈ casedCodes ∧ upperCodes n ∈ raisedCodes := by
  rw [upperCodes]
  split
  · rename_i codes expanded
    obtain ⟨before, after, split, _⟩ := List.lookup_eq_some_iff.mp expanded
    have listed : (n, codes) ∈ caseExpansions := by rw [split]; simp
    exact Or.inr ⟨List.mem_append_left _ (List.mem_map_of_mem listed),
      List.mem_append_left _ (List.mem_map_of_mem listed)⟩
  · split
    · rename_i run found
      have listed := List.mem_of_find?_eq_some found
      have covers := List.find?_some found
      have covered : n ∈ run.codes := CaseRun.mem_codes covers
      exact Or.inr ⟨List.mem_append_right _ (List.mem_flatMap_of_mem listed covered),
        List.mem_append_right _ (List.mem_flatMap_of_mem listed (List.mem_map_of_mem covered))⟩
    · exact Or.inl rfl

/-- A set of code points, held in the bits of one number: whether two tables have a code point in
    common is then one operation on numbers. -/
def bitSet : List Nat → Nat
  | [] => 0
  | n :: codes => 2 ^ n ||| bitSet codes

theorem testBit_bitSet (codes : List Nat) (n : Nat) :
    (bitSet codes).testBit n = true ↔ n ∈ codes := by
  induction codes with
  | nil => simp [bitSet]
  | cons m codes ih =>
      rw [bitSet, Nat.testBit_or, Bool.or_eq_true, Nat.testBit_two_pow, decide_eq_true_eq, ih,
        List.mem_cons, eq_comm]

theorem notMem_of_bitSet_apart {codes other : List Nat} (apart : bitSet codes &&& bitSet other = 0)
    {n : Nat} (member : n ∈ codes) : n ∉ other := by
  intro both
  rw [← testBit_bitSet] at member both
  have common : (bitSet codes &&& bitSet other).testBit n = true := by
    rw [Nat.testBit_and, member, both, Bool.and_self]
  rw [apart, Nat.zero_testBit] at common
  contradiction

/-- No upper case that a table gives starts with a code point that a table gives another one. -/
theorem raisedCodes_apart :
    bitSet (raisedCodes.filterMap List.head?) &&& bitSet casedCodes = 0 := by
  decide +kernel

theorem raisedCodes_valid :
    (raisedCodes.all fun codes => !codes.isEmpty && codes.all fun n => decide n.isValidChar) =
      true := by
  decide +kernel

theorem ne_nil_of_raised {codes : List Nat} (raised : codes ∈ raisedCodes) : codes ≠ [] := by
  have valid := List.all_eq_true.mp raisedCodes_valid codes raised
  rw [Bool.and_eq_true, Bool.not_eq_true', List.isEmpty_eq_false_iff] at valid
  exact valid.1

theorem toNat_ofNat_of_raised {codes : List Nat} (raised : codes ∈ raisedCodes) {n : Nat}
    (inside : n ∈ codes) : (Char.ofNat n).toNat = n := by
  have valid := List.all_eq_true.mp raisedCodes_valid codes raised
  rw [Bool.and_eq_true] at valid
  have valid : n.isValidChar := of_decide_eq_true (List.all_eq_true.mp valid.2 n inside)
  rw [Char.ofNat, dif_pos valid]
  rfl

theorem upper_cases (c : Char) :
    upper c = [c] ∨ ∃ codes ∈ raisedCodes, upper c = codes.map Char.ofNat := by
  rw [upper]
  rcases upperCodes_cases c.toNat with same | ⟨_, raised⟩
  · rw [same, List.map_singleton, Char.ofNat_toNat]
    exact Or.inl rfl
  · exact Or.inr ⟨_, raised, rfl⟩

theorem mem_upper {c d : Char} (member : d ∈ upper c) : d = c ∨ d.toNat ∈ raisedCodes.flatten := by
  rcases upper_cases c with same | ⟨codes, raised, whole⟩
  · rw [same, List.mem_singleton] at member
    exact Or.inl member
  · rw [whole, List.mem_map] at member
    obtain ⟨n, inside, rfl⟩ := member
    rw [toNat_ofNat_of_raised raised inside]
    exact Or.inr (List.mem_flatten_of_mem raised inside)

theorem upper_ne_nil (c : Char) : upper c ≠ [] := by
  rcases upper_cases c with same | ⟨codes, raised, whole⟩
  · rw [same]
    exact List.cons_ne_nil _ _
  · rw [whole, Ne, List.map_eq_nil_iff]
    exact ne_nil_of_raised raised

theorem upper_of_mem_head? {c first : Char} (start : first ∈ (upper c).head?) :
    upper first = [first] := by
  rcases upper_cases c with same | ⟨codes, raised, whole⟩
  · rw [same] at start
    cases start
    exact same
  · obtain ⟨n, rest, rfl⟩ := List.exists_cons_of_ne_nil (ne_nil_of_raised raised)
    rw [whole] at start
    cases start
    have listed : n ∈ raisedCodes.filterMap List.head? := List.mem_filterMap.mpr ⟨_, raised, rfl⟩
    -- A code point that has another upper case is in the tables, and `n` is in neither of them.
    have settled : upperCodes n = [n] :=
      (upperCodes_cases n).resolve_right fun cased =>
        notMem_of_bitSet_apart raisedCodes_apart listed cased.1
    rw [upper, toNat_ofNat_of_raised raised List.mem_cons_self, settled, List.map_singleton]

end ReleaseDrift.Text
