import Mathlib.Data.Finset.Sort
import Mathlib.Data.String.Basic
import ReleaseDrift.Sorted

/-!
Sorted sets by what is in them. A set in ascending order is determined by its elements.
-/

namespace ReleaseDrift.SortedSet

def Ascending (set : List String) : Prop := set.Pairwise (· < ·)

theorem mem_insert (name other : String) (set : List String) :
    other ∈ insert name set ↔ other = name ∨ other ∈ set := by
  induction set with
  | nil => simp [insert]
  | cons first set ih =>
      rw [insert]
      by_cases below : name < first
      · rw [if_pos below, List.mem_cons]
      · by_cases same : name = first
        · subst same
          simp
        · rw [if_neg below, if_neg same, List.mem_cons, List.mem_cons, ih]
          exact or_left_comm

theorem insertAll_cons (name : String) (names set : List String) :
    insertAll (name :: names) set = insertAll names (insert name set) := rfl

theorem mem_insertAll (names set : List String) (name : String) :
    name ∈ insertAll names set ↔ name ∈ names ∨ name ∈ set := by
  induction names generalizing set with
  | nil => simp [insertAll]
  | cons first names ih =>
      rw [insertAll_cons, ih, mem_insert, List.mem_cons]
      exact or_left_comm.trans (or_assoc (a := name = first)).symm

theorem insertAll_append (names more set : List String) :
    insertAll (names ++ more) set = insertAll more (insertAll names set) :=
  List.foldl_append

namespace Ascending

variable {set : List String}

theorem insert (ascending : Ascending set) (name : String) : Ascending (insert name set) := by
  induction set with
  | nil => exact List.pairwise_singleton _ _
  | cons first set ih =>
      obtain ⟨above, rest⟩ := List.pairwise_cons.mp ascending
      rw [SortedSet.insert]
      by_cases below : name < first
      · rw [if_pos below]
        refine List.pairwise_cons.mpr ⟨?_, ascending⟩
        intro other member
        rcases List.mem_cons.mp member with rfl | later
        · exact below
        · exact String.lt_trans below (above other later)
      · by_cases same : name = first
        · rw [if_neg below, if_pos same]
          exact ascending
        · have greater : first < name := by
            apply Classical.not_not.mp
            intro notAbove
            exact same (String.le_antisymm (String.not_lt.mp notAbove) (String.not_lt.mp below))
          rw [if_neg below, if_neg same]
          refine List.pairwise_cons.mpr ⟨?_, ih rest⟩
          intro other member
          rcases (mem_insert name other set).mp member with rfl | later
          · exact greater
          · exact above other later

theorem insertAll (ascending : Ascending set) (names : List String) :
    Ascending (insertAll names set) := by
  induction names generalizing set with
  | nil => exact ascending
  | cons name names ih => exact ih (ascending.insert name)

theorem filter (ascending : Ascending set) (test : String → Bool) : Ascending (set.filter test) :=
  List.Pairwise.filter test ascending

theorem nodup (ascending : Ascending set) : set.Nodup := by
  refine List.Pairwise.imp ?_ ascending
  rintro name _ below rfl
  exact String.lt_irrefl _ below

theorem eq_of_mem_iff {other : List String} (ascending : Ascending set)
    (ascendingOther : Ascending other) (same : ∀ name, name ∈ set ↔ name ∈ other) :
    set = other := by
  have elements : set.Perm other :=
    (List.perm_ext_iff_of_nodup ascending.nodup ascendingOther.nodup).mpr same
  refine elements.eq_of_pairwise ?_ ascending ascendingOther
  intro first second _ _ below above
  exact absurd above (String.lt_asymm below)

theorem eq_sort (ascending : Ascending set) {names : Finset String}
    (same : ∀ name, name ∈ set ↔ name ∈ names) : set = names.sort (· ≤ ·) := by
  refine ascending.eq_of_mem_iff (Finset.sortedLT_sort names).pairwise ?_
  intro name
  rw [same, Finset.mem_sort]

end Ascending

theorem mem_ofList (names : List String) (name : String) : name ∈ ofList names ↔ name ∈ names := by
  rw [ofList, mem_insertAll]
  simp

theorem ofList_ascending (names : List String) : Ascending (ofList names) :=
  Ascending.insertAll List.Pairwise.nil names

end ReleaseDrift.SortedSet
