import Mathlib.Data.List.Basic

/-!
A list cut into groups, one for each key. Every entry stands in one group, and each group keeps
the order of the list.
-/

namespace ReleaseDrift

section Key

variable {Key Entry : Type} [DecidableEq Key] (key : Entry → Key)

theorem filter_key_filter_key (entries : List Entry) (wanted other : Key) :
    (entries.filter (key · == other)).filter (key · == wanted) =
      if wanted = other then entries.filter (key · == wanted) else [] := by
  rw [List.filter_filter]
  by_cases same : wanted = other
  · subst same
    rw [if_pos rfl]
    apply List.filter_congr
    intro entry _
    exact Bool.and_self _
  · rw [if_neg same, List.filter_eq_nil_iff]
    intro entry _ both
    rw [Bool.and_eq_true, beq_iff_eq, beq_iff_eq] at both
    exact same (both.1.symm.trans both.2)

theorem filter_key_groups {keys : List Key} (distinct : keys.Nodup) {wanted : Key}
    (member : wanted ∈ keys) (entries : List Entry) :
    (keys.flatMap fun other => entries.filter (key · == other)).filter (key · == wanted) =
      entries.filter (key · == wanted) := by
  rw [List.filter_flatMap]
  simp only [filter_key_filter_key]
  induction keys with
  | nil => contradiction
  | cons first keys ih =>
      obtain ⟨fresh, distinct⟩ := List.nodup_cons.mp distinct
      rw [List.flatMap_cons]
      by_cases same : wanted = first
      · have none : (keys.flatMap fun other =>
            if wanted = other then entries.filter (key · == wanted) else []) = [] := by
          rw [List.flatMap_eq_nil_iff]
          intro other listed
          have apart : wanted ≠ other := fun equal => fresh (same ▸ equal ▸ listed)
          exact if_neg apart
        rw [if_pos same, none, List.append_nil]
      · have later := (List.mem_cons.mp member).resolve_left same
        rw [if_neg same, List.nil_append]
        exact ih distinct later

theorem groups_perm {keys : List Key} (distinct : keys.Nodup) {entries : List Entry}
    (known : ∀ entry ∈ entries, key entry ∈ keys) :
    (keys.flatMap fun other => entries.filter (key · == other)).Perm entries := by
  induction keys generalizing entries with
  | nil =>
      have none : entries = [] := List.eq_nil_iff_forall_not_mem.mpr fun entry member => by
        simpa using known entry member
      rw [none]
      rfl
  | cons first keys ih =>
      obtain ⟨fresh, distinct⟩ := List.nodup_cons.mp distinct
      have rest : ∀ other ∈ keys, entries.filter (key · == other) =
          (entries.filter (!key · == first)).filter (key · == other) := by
        intro other member
        have apart : other ≠ first := fun same => fresh (same ▸ member)
        rw [List.filter_filter]
        apply List.filter_congr
        intro entry _
        by_cases same : key entry = other <;> simp [same, apart]
      have others : ∀ entry ∈ entries.filter (!key · == first), key entry ∈ keys := by
        intro entry member
        obtain ⟨inside, apart⟩ := List.mem_filter.mp member
        exact (List.mem_cons.mp (known entry inside)).resolve_left (by simpa using apart)
      rw [List.flatMap_cons, List.flatMap_congr rest]
      exact ((ih distinct others).append_left _).trans (List.filter_append_perm _ _)

end Key

theorem flatMap_filter_of_silent {Item Entry : Type} {keep : Item → Bool}
    {entries : Item → List Entry} (items : List Item)
    (silent : ∀ item ∈ items, keep item = false → entries item = []) :
    (items.filter keep).flatMap entries = items.flatMap entries := by
  induction items with
  | nil => rfl
  | cons item items ih =>
      rw [List.forall_mem_cons] at silent
      rw [List.flatMap_cons, ← ih silent.2]
      cases kept : keep item with
      | true => rw [List.filter_cons_of_pos kept, List.flatMap_cons]
      | false => rw [List.filter_cons_of_neg (by simp [kept]), silent.1 kept, List.nil_append]

end ReleaseDrift
