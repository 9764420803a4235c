import Mathlib.Data.List.Perm.Basic
import ReleaseDrift.Sorted

/-!
Sorted maps by what they hold under each key. A map in ascending order is determined by that.
-/

namespace ReleaseDrift.SortedMap

variable {α β : Type}

def Ascending (map : List (String × α)) : Prop := map.Pairwise (·.1 < ·.1)

instance (map : List (String × α)) : Decidable (Ascending map) :=
  inferInstanceAs (Decidable (map.Pairwise (·.1 < ·.1)))

theorem get?_cons (name key : String) (value : α) (map : List (String × α)) :
    get? ((name, value) :: map) key = if key = name then some value else get? map key := by
  rw [get?, List.lookup_cons, get?]
  by_cases same : key = name
  · simp [same]
  · simp [same, beq_eq_false_iff_ne.mpr same]

theorem get?_insert (key name : String) (value : α) (map : List (String × α)) :
    get? (insert name value map) key = if key = name then some value else get? map key := by
  induction map with
  | nil => rw [insert, get?_cons]
  | cons entry map ih =>
      obtain ⟨other, kept⟩ := entry
      rw [insert]
      split
      · rw [get?_cons]
      · split
        · rename_i same
          rw [get?_cons, get?_cons, same]
          split <;> rfl
        · rename_i apart
          rw [get?_cons, get?_cons, ih]
          grind

theorem get?_foldl_insert (key : String) (entries map : List (String × α)) :
    get? (entries.foldl (fun map (name, value) => insert name value map) map) key =
      (get? (ofList entries) key).or (get? map key) := by
  induction entries generalizing map with
  | nil => rfl
  | cons entry entries ih =>
      rw [ofList, List.foldl_cons, List.foldl_cons, ih, ih (insert entry.1 entry.2 []), get?_insert,
        get?_insert]
      cases get? (ofList entries) key with
      | some value => rfl
      | none => split <;> rfl

theorem get?_ofList_cons (name key : String) (value : α) (entries : List (String × α)) :
    get? (ofList ((name, value) :: entries)) key =
      (get? (ofList entries) key).or (if key = name then some value else none) := by
  rw [ofList, List.foldl_cons, get?_foldl_insert, get?_insert]
  rfl

theorem get?_filter_key (test : String → Bool) (key : String) (map : List (String × α)) :
    get? (map.filter (test ·.1)) key = if test key = true then get? map key else none := by
  induction map with
  | nil => simp [get?]
  | cons entry map ih =>
      obtain ⟨other, kept⟩ := entry
      rw [List.filter_cons, get?_cons]
      by_cases same : key = other
      · subst same
        by_cases passes : test key = true
        · simp only [passes, if_true, get?_cons]
        · simp only [passes, Bool.false_eq_true, if_false, ih]
      · by_cases passes : test other = true
        · simp only [passes, if_true, get?_cons, same, if_false, ih]
        · simp only [passes, Bool.false_eq_true, if_false, same, ih]

theorem get?_erase (key name : String) (map : List (String × α)) :
    get? (erase map name) key = if key = name then none else get? map key := by
  rw [erase, get?_filter_key (· != name)]
  by_cases same : key = name <;> simp [same]

theorem get?_map (f : String → α → β) (key : String) (map : List (String × α)) :
    get? (map.map fun entry => (entry.1, f entry.1 entry.2)) key = (get? map key).map (f key) := by
  induction map with
  | nil => rfl
  | cons entry map ih =>
      rw [List.map_cons, get?_cons, get?_cons, ih]
      split
      · rename_i same
        rw [same, Option.map_some]
      · rfl

theorem map_insert (f : String → α → β) (key : String) (value : α) (map : List (String × α)) :
    (insert key value map).map (fun entry => (entry.1, f entry.1 entry.2)) =
      insert key (f key value) (map.map fun entry => (entry.1, f entry.1 entry.2)) := by
  induction map with
  | nil => rfl
  | cons entry map ih =>
      obtain ⟨other, kept⟩ := entry
      simp only [insert, List.map_cons]
      split
      · rfl
      · split
        · rfl
        · rw [List.map_cons, ih]

theorem map_foldl_insert (f : String → α → β) (entries map : List (String × α)) :
    (entries.foldl (fun map (key, value) => insert key value map) map).map
        (fun entry => (entry.1, f entry.1 entry.2)) =
      (entries.map fun entry => (entry.1, f entry.1 entry.2)).foldl
        (fun map (key, value) => insert key value map)
        (map.map fun entry => (entry.1, f entry.1 entry.2)) := by
  induction entries generalizing map with
  | nil => rfl
  | cons entry entries ih => rw [List.foldl_cons, ih, map_insert, List.map_cons, List.foldl_cons]

theorem get?_eq_none_of_forall {key : String} {map : List (String × α)}
    (apart : ∀ entry ∈ map, entry.1 ≠ key) : get? map key = none := by
  induction map with
  | nil => rfl
  | cons entry map ih =>
      rw [List.forall_mem_cons] at apart
      rw [get?_cons, if_neg (Ne.symm apart.1), ih apart.2]

theorem contains_iff (map : List (String × α)) (key : String) :
    contains map key = true ↔ key ∈ map.map (·.1) := by
  induction map with
  | nil => simp [contains, get?]
  | cons entry map ih =>
      rw [contains] at ih
      rw [contains, get?_cons, List.map_cons, List.mem_cons, ← ih]
      by_cases same : key = entry.1 <;> simp [same]

def alter (key : String) (edit : Option α → Option α) (map : List (String × α)) :
    List (String × α) :=
  match edit (get? map key) with
  | some value => insert key value map
  | none => erase map key

theorem get?_alter (key name : String) (edit : Option α → Option α) (map : List (String × α)) :
    get? (alter name edit map) key = if key = name then edit (get? map name) else get? map key := by
  unfold alter
  cases edited : edit (get? map name) with
  | some value => exact get?_insert key name value map
  | none => exact get?_erase key name map

theorem mem_insert {name : String} {value : α} {map : List (String × α)} {entry : String × α}
    (member : entry ∈ insert name value map) : entry = (name, value) ∨ entry ∈ map := by
  induction map with
  | nil => exact Or.inl (List.mem_singleton.mp member)
  | cons first map ih =>
      rw [insert] at member
      grind

/-- The keys that two maps share, each with what stands under it on either side. -/
def common (left : List (String × α)) (right : List (String × β)) : List (String × α × β) :=
  left.filterMap fun entry => (get? right entry.1).map fun other => (entry.1, entry.2, other)

section Common

variable (left : List (String × α)) (right : List (String × β))

theorem get?_common (key : String) :
    get? (common left right) key =
      (get? left key).bind fun value => (get? right key).map fun other => (value, other) := by
  induction left with
  | nil => rfl
  | cons entry left ih =>
      obtain ⟨name, value⟩ := entry
      rw [common] at ih
      rw [common, List.filterMap_cons, get?_cons]
      by_cases same : key = name
      · subst same
        rw [if_pos rfl, Option.bind_some]
        cases found : get? right key with
        | some other => simp [get?_cons]
        | none =>
            rw [found] at ih
            simp [ih]
      · rw [if_neg same, ← ih]
        cases get? right name with
        | some other => simp [get?_cons, same]
        | none => rfl

theorem filterMap_eq_filterMap_common {γ : Type} (select? : String → α → Option β → Option γ)
    (alone : ∀ key value, select? key value none = none) :
    left.filterMap (fun entry => select? entry.1 entry.2 (get? right entry.1)) =
      (common left right).filterMap fun entry => select? entry.1 entry.2.1 (some entry.2.2) := by
  rw [common, List.filterMap_filterMap]
  apply List.filterMap_congr
  intro entry _
  cases get? right entry.1 with
  | none => simp [alone]
  | some other => simp

theorem keys_common :
    (common left right).map (·.1) = (left.map (·.1)).filter (contains right) := by
  induction left with
  | nil => rfl
  | cons entry left ih =>
      rw [common] at ih
      rw [common, List.filterMap_cons, List.map_cons, List.filter_cons, contains, ← ih]
      cases get? right entry.1 <;> rfl

theorem filter_common (test : String → Bool) :
    (common left right).filter (test ·.1) =
      common (left.filter (test ·.1)) (right.filter (test ·.1)) := by
  induction left with
  | nil => rfl
  | cons entry left ih =>
      rw [common, common] at ih
      rw [common, common, List.filterMap_cons, List.filter_cons]
      by_cases passes : test entry.1 = true
      · rw [if_pos passes, List.filterMap_cons, get?_filter_key, if_pos passes, ← ih]
        cases get? right entry.1 with
        | none => rfl
        | some other => exact List.filter_cons_of_pos passes
      · rw [if_neg passes, ← ih]
        cases get? right entry.1 with
        | none => rfl
        | some other => exact List.filter_cons_of_neg passes

theorem length_filter_not_contains :
    (left.filter fun entry => !contains right entry.1).length + (common left right).length =
      left.length := by
  induction left with
  | nil => rfl
  | cons entry left ih =>
      rw [common] at ih
      rw [common, List.filter_cons, List.filterMap_cons, contains]
      cases get? right entry.1 with
      | none =>
          simp only [Option.isSome_none, Bool.not_false, if_true, Option.map_none,
            List.length_cons]
          omega
      | some other =>
          simp only [Option.isSome_some, Bool.not_true, Bool.false_eq_true, if_false,
            Option.map_some, List.length_cons]
          omega

end Common

namespace Ascending

variable {entries : List (String × α)}

theorem get?_tail {name : String} {value : α} (ascending : Ascending ((name, value) :: entries)) :
    get? entries name = none := by
  apply get?_eq_none_of_forall
  intro entry member same
  have below := (List.pairwise_cons.mp ascending).1 entry member
  rw [same] at below
  exact String.lt_irrefl name below

theorem get?_eq_some_iff (ascending : Ascending entries) (key : String) (value : α) :
    get? entries key = some value ↔ (key, value) ∈ entries := by
  induction entries with
  | nil => simp [get?]
  | cons entry entries ih =>
      obtain ⟨name, kept⟩ := entry
      have fresh := ascending.get?_tail
      rw [get?_cons, List.mem_cons, ← ih (List.pairwise_cons.mp ascending).2]
      grind

theorem sublist {other : List (String × α)} (ascending : Ascending entries)
    (inside : other.Sublist entries) : Ascending other :=
  List.Pairwise.sublist inside ascending

theorem map (ascending : Ascending entries) (f : String → α → β) :
    Ascending (entries.map fun entry => (entry.1, f entry.1 entry.2)) :=
  List.pairwise_map.mpr ascending

theorem erase (ascending : Ascending entries) (name : String) : Ascending (erase entries name) :=
  ascending.sublist List.filter_sublist

theorem insert (ascending : Ascending entries) (name : String) (value : α) :
    Ascending (insert name value entries) := by
  induction entries with
  | nil => exact List.pairwise_singleton _ _
  | cons entry entries ih =>
      obtain ⟨other, kept⟩ := entry
      obtain ⟨above, rest⟩ := List.pairwise_cons.mp ascending
      rw [SortedMap.insert]
      split
      · rename_i below
        refine List.pairwise_cons.mpr ⟨?_, ascending⟩
        intro entry member
        rcases List.mem_cons.mp member with rfl | later
        · exact below
        · exact String.lt_trans below (above entry later)
      · rename_i notBelow
        split
        · rename_i same
          subst same
          exact List.pairwise_cons.mpr ⟨above, rest⟩
        · rename_i apart
          have greater : other < name := Classical.not_not.mp fun notAbove =>
            apart (String.le_antisymm (String.not_lt.mp notAbove) (String.not_lt.mp notBelow))
          refine List.pairwise_cons.mpr ⟨?_, ih rest⟩
          intro entry member
          rcases mem_insert member with rfl | later
          · exact greater
          · exact above entry later

theorem foldl_insert (ascending : Ascending entries) (others : List (String × α)) :
    Ascending (others.foldl (fun map (name, value) => SortedMap.insert name value map) entries) := by
  induction others generalizing entries with
  | nil => exact ascending
  | cons entry others ih => exact ih (ascending.insert entry.1 entry.2)

theorem alter (ascending : Ascending entries) (key : String) (edit : Option α → Option α) :
    Ascending (alter key edit entries) := by
  unfold SortedMap.alter
  split
  · exact ascending.insert key _
  · exact ascending.erase key

theorem nodup (ascending : Ascending entries) : entries.Nodup := by
  refine List.Pairwise.imp ?_ ascending
  rintro entry _ below rfl
  exact String.lt_irrefl _ below

theorem eq_of_get? {other : List (String × α)} (ascending : Ascending entries)
    (ascendingOther : Ascending other) (same : ∀ key, get? entries key = get? other key) :
    entries = other := by
  have members : entries.Perm other := by
    rw [List.perm_ext_iff_of_nodup ascending.nodup ascendingOther.nodup]
    intro entry
    rw [← ascending.get?_eq_some_iff, ← ascendingOther.get?_eq_some_iff, same]
  refine members.eq_of_pairwise ?_ ascending ascendingOther
  intro first second _ _ below above
  exact absurd above (String.lt_asymm below)

theorem common {other : List (String × β)} (ascending : Ascending entries) :
    Ascending (common entries other) := by
  refine List.pairwise_filterMap.mpr (List.Pairwise.imp ?_ ascending)
  intro first second below left isLeft right isRight
  obtain ⟨_, _, rfl⟩ := Option.map_eq_some_iff.mp isLeft
  obtain ⟨_, _, rfl⟩ := Option.map_eq_some_iff.mp isRight
  exact below

/-- Which of two maps is gone through does not matter for what they share. -/
theorem common_swap {other : List (String × β)} (ascending : Ascending entries)
    (ascendingOther : Ascending other) :
    SortedMap.common other entries =
      (SortedMap.common entries other).map fun entry => (entry.1, entry.2.swap) := by
  have swapped : Ascending ((SortedMap.common entries other).map fun entry =>
      (entry.1, entry.2.swap)) := ascending.common.map fun _ => Prod.swap
  refine ascendingOther.common.eq_of_get? swapped ?_
  intro key
  rw [get?_map (fun _ => Prod.swap), get?_common, get?_common]
  cases get? other key with
  | none => cases get? entries key <;> rfl
  | some right => cases get? entries key <;> rfl

end Ascending

end ReleaseDrift.SortedMap
