import Mathlib.Data.List.Induction

/-!
The distinct values of a list, in the order in which they first stand there.
-/

namespace ReleaseDrift

theorem eraseDups_append_singleton (names : List String) (name : String) :
    (names ++ [name]).eraseDups =
      if name ∈ names then names.eraseDups else names.eraseDups ++ [name] := by
  rw [List.eraseDups_append, List.removeAll, List.filter_cons, List.filter_nil]
  by_cases known : name ∈ names
  · simp only [List.elem_eq_mem, known, decide_true, Bool.not_true, Bool.false_eq_true, if_false,
      List.eraseDups_nil, List.append_nil, if_true]
  · simp only [List.elem_eq_mem, known, decide_false, Bool.not_false, if_true, if_false]
    rfl

theorem eraseDups_flatMap_twice (names : List String) :
    (names.flatMap fun name => [name, name]).eraseDups = names.eraseDups := by
  induction names using List.reverseRecOn with
  | nil => rfl
  | append_singleton names name ih =>
      have twice : (names ++ [name]).flatMap (fun name => [name, name]) =
          names.flatMap (fun name => [name, name]) ++ [name] ++ [name] := by simp
      have known : name ∈ names.flatMap (fun name => [name, name]) ↔ name ∈ names := by
        simp [List.mem_flatMap]
      rw [twice, eraseDups_append_singleton, if_pos (by simp), eraseDups_append_singleton, ih,
        eraseDups_append_singleton]
      simp only [known]

theorem nodup_eraseDups (names : List String) : names.eraseDups.Nodup := by
  induction names using List.reverseRecOn with
  | nil => simp
  | append_singleton names name ih =>
      rw [eraseDups_append_singleton]
      split
      · exact ih
      · rename_i unknown
        rw [List.nodup_append]
        refine ⟨ih, by simp, ?_⟩
        intro other member last isLast same
        rw [List.mem_singleton.mp isLast] at same
        exact unknown (same ▸ List.mem_eraseDups.mp member)

end ReleaseDrift
