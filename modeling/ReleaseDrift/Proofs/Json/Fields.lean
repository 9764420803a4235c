import Mathlib.Data.List.Forall2
import Mathlib.Data.List.Perm.Basic
import ReleaseDrift.Json.Fields

/-!
Records as JSON objects. The order of the members of an object has no meaning, and what a field
is given as is found under any of its names.
-/

namespace ReleaseDrift.Json.Written

theorem mapM_eq_some_iff {α β : Type} {read : α → Option β} {items : List α} {values : List β} :
    items.mapM read = some values ↔
      List.Forall₂ (fun item value => read item = some value) items values := by
  induction items generalizing values with
  | nil => simp [eq_comm]
  | cons item items ih =>
      rw [List.mapM_cons, List.forall₂_cons_left_iff]
      simp only [← ih]
      constructor
      · intro all
        obtain ⟨value, first, all⟩ := Option.bind_eq_some_iff.mp all
        obtain ⟨rest, later, same⟩ := Option.bind_eq_some_iff.mp all
        cases same
        exact ⟨value, rest, first, later, rfl⟩
      · rintro ⟨value, rest, first, later, rfl⟩
        rw [first, later]
        rfl

theorem exists_mem_of_forall₂ {α β : Type} {R : α → β → Prop} {items : List α} {values : List β}
    (each : List.Forall₂ R items values) {value : β} (member : value ∈ values) :
    ∃ item ∈ items, R item value := by
  induction each with
  | nil => cases member
  | @cons item first items values related _ ih =>
      rcases List.mem_cons.mp member with rfl | later
      · exact ⟨item, List.mem_cons_self, related⟩
      · obtain ⟨other, listed, related⟩ := ih later
        exact ⟨other, List.mem_cons_of_mem item listed, related⟩

theorem ofJson_arr (items : List Json) : ofJson (.arr items) = arr (items.map ofJson) := by
  have each : ofJson.ofItems items = items.map ofJson := by
    induction items with
    | nil => rfl
    | cons item items ih => rw [ofJson.ofItems, ih, List.map_cons]
  rw [ofJson, each]

theorem ofJson_obj (members : List (String × Json)) :
    ofJson (.obj members) = obj (members.map fun member => (some member.1, ofJson member.2)) := by
  have each : ofJson.ofMembers members =
      members.map fun member => (some member.1, ofJson member.2) := by
    induction members with
    | nil => rfl
    | cons member members ih =>
        obtain ⟨name, value⟩ := member
        rw [ofJson.ofMembers, ih, List.map_cons]
  rw [ofJson, each]

theorem field?_perm {members others : List (Option String × Written)} (same : members.Perm others)
    (names : List String) : field? members names = field? others names := by
  have filtered := same.filter fun member => member.1.any (names.contains ·)
  rw [field?, field?]
  split
  · rename_i none
    rw [none, List.nil_perm] at filtered
    rw [filtered]
  · rename_i name value one
    rw [one, List.singleton_perm] at filtered
    rw [← filtered]
  · rename_i notNone notOne
    split
    · rename_i none
      rw [none, List.perm_nil] at filtered
      exact absurd filtered notNone
    · rename_i name value one
      rw [one, List.perm_singleton] at filtered
      exact absurd filtered (notOne name value)
    · rfl

theorem fields?_ofJson (members : List (String × Json)) (names : List (List String)) :
    (ofJson (.obj members)).fields? names =
      names.mapM (field? (members.map fun member => (some member.1, ofJson member.2))) := by
  have named : (members.map fun member => (some member.1, ofJson member.2)).all (·.1.isSome) =
      true := by simp
  rw [ofJson_obj, fields?, if_pos named]

/-- The order of the members of an object has no meaning. -/
theorem fields?_ofJson_perm {members others : List (String × Json)} (same : members.Perm others)
    (names : List (List String)) :
    (ofJson (.obj members)).fields? names = (ofJson (.obj others)).fields? names := by
  have each := funext (field?_perm (same.map fun member => (some member.1, ofJson member.2)))
  rw [fields?_ofJson, fields?_ofJson, each]

theorem texts?_ofJson (names : List String) :
    texts? (.ofJson (.arr (names.map .str))) = some names := by
  rw [ofJson_arr, texts?, mapM_eq_some_iff, List.forall₂_map_left_iff, List.forall₂_map_left_iff,
    List.forall₂_same]
  intro name _
  rw [ofJson, text?]

def countLimit : Nat := Nat.pow 2 32

theorem count?_ofNat {n : Nat} (small : n < countLimit) : count? (.ofJson (.ofNat n)) = some n := by
  rw [countLimit] at small
  have bounds : (0 : Int) ≤ n ∧ (n : Int) < (Nat.pow 2 32 : Int) := by omega
  rw [Json.ofNat, ofJson, count?, if_pos bounds, Int.toNat_natCast]

theorem count?_lt {written : Written} {n : Nat} (read : count? written = some n) :
    n < countLimit := by
  unfold count? at read
  split at read
  · rw [Option.ite_none_right_eq_some] at read
    obtain ⟨⟨_, small⟩, same⟩ := read
    cases same
    rw [countLimit]
    omega
  · cases read

end ReleaseDrift.Json.Written
