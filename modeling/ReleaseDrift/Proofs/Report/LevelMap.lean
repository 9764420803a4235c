import ReleaseDrift.Report.Basic

/-!
Maps from levels, filled entry by entry. Such a map holds what the entries of each level come to,
in the order of a report, and leaves out the levels that have none.
-/

namespace ReleaseDrift

namespace Level

theorem mem_all (level : Level) : level ∈ all := by
  cases level <;> decide

theorem all_ascending : all.Pairwise (·.rank < ·.rank) := by decide

section Modify

variable {Value : Type} (default : Value) (change : Value → Value) (level : Level)

theorem modify_of_forall_lt {map : List (Level × Value)}
    (later : ∀ entry ∈ map, level.rank < entry.1.rank) :
    level.modify default change map = (level, change default) :: map := by
  cases map with
  | nil => rfl
  | cons entry map => exact if_pos (later entry List.mem_cons_self)

theorem modify_of_lt {first : Level} (before : first.rank < level.rank) (value : Value)
    (map : List (Level × Value)) :
    level.modify default change ((first, value) :: map) =
      (first, value) :: level.modify default change map := by
  have apart : level ≠ first := by
    rintro rfl
    exact Nat.lt_irrefl _ before
  rw [modify, if_neg (Nat.lt_asymm before), if_neg apart]

/-- The levels of a list with their values, less those whose value is the default. -/
def mapOf (keep : Value → Bool) (levels : List Level) (value : Level → Value) :
    List (Level × Value) :=
  (levels.map fun level => (level, value level)).filter fun entry => keep entry.2

variable {default change level} {keep : Value → Bool} (value : Level → Value)

theorem mapOf_cons (first : Level) (levels : List Level) :
    mapOf keep (first :: levels) value =
      if keep (value first) then (first, value first) :: mapOf keep levels value
      else mapOf keep levels value :=
  List.filter_cons

theorem mem_of_mem_mapOf {levels : List Level} {entry : Level × Value}
    (member : entry ∈ mapOf keep levels value) : entry.1 ∈ levels := by
  obtain ⟨level, listed, rfl⟩ := List.mem_map.mp (List.mem_filter.mp member).1
  exact listed

theorem mem_map_fst_mapOf_iff {levels : List Level} (level : Level) :
    level ∈ (mapOf keep levels value).map Prod.fst ↔
      level ∈ levels ∧ keep (value level) = true := by
  simp only [mapOf, List.mem_map, List.mem_filter]
  constructor
  · rintro ⟨entry, ⟨⟨other, listed, rfl⟩, kept⟩, rfl⟩
    exact ⟨listed, kept⟩
  · rintro ⟨listed, kept⟩
    exact ⟨(level, value level), ⟨⟨level, listed, rfl⟩, kept⟩, rfl⟩

theorem getD_lookup_mapOf {absent : Value} (dropped : ∀ value, keep value = false → value = absent)
    (levels : List Level) (level : Level) :
    ((mapOf keep levels value).lookup level).getD absent =
      if level ∈ levels then value level else absent := by
  induction levels with
  | nil => rfl
  | cons first levels ih =>
      rw [mapOf_cons]
      by_cases same : level = first
      · subst same
        cases kept : keep (value level) with
        | true => simp
        | false => simp [ih, dropped _ kept]
      · have apart : (level == first) = false := by simpa using same
        split
        · rw [List.lookup_cons, apart]
          simp [ih, same]
        · simp [ih, same]

theorem mapOf_congr {levels : List Level} {value other : Level → Value}
    (same : ∀ level ∈ levels, value level = other level) :
    mapOf keep levels value = mapOf keep levels other := by
  rw [mapOf, mapOf, List.map_congr_left fun level member => by rw [same level member]]

theorem modify_mapOf (dropped : ∀ value, keep value = false → value = default)
    (kept : keep (change (value level)) = true) {levels : List Level}
    (ascending : levels.Pairwise (·.rank < ·.rank)) (member : level ∈ levels) :
    level.modify default change (mapOf keep levels value) =
      mapOf keep levels fun other =>
        if other = level then change (value other) else value other := by
  induction levels with
  | nil => contradiction
  | cons first levels ih =>
      obtain ⟨below, ascending⟩ := List.pairwise_cons.mp ascending
      rw [mapOf_cons, mapOf_cons]
      by_cases same : level = first
      · subst same
        have rest : mapOf keep levels
            (fun other => if other = level then change (value other) else value other) =
              mapOf keep levels value := by
          refine mapOf_congr fun other later => if_neg ?_
          rintro rfl
          exact Nat.lt_irrefl _ (below other later)
        rw [if_pos rfl, kept, if_pos rfl, rest]
        cases held : keep (value level) with
        | true =>
            rw [if_pos rfl, modify, if_neg (Nat.lt_irrefl _), if_pos rfl]
        | false =>
            have later : ∀ entry ∈ mapOf keep levels value, level.rank < entry.1.rank :=
              fun entry inside => below entry.1 (mem_of_mem_mapOf value inside)
            rw [if_neg Bool.false_ne_true, modify_of_forall_lt default change level later,
              dropped _ held]
      · have later := (List.mem_cons.mp member).resolve_left same
        rw [if_neg (Ne.symm same)]
        split
        · rw [modify_of_lt default change level (below level later), ih ascending later]
        · exact ih ascending later

variable {Entry : Type} (key : Entry → Level) (step : Value → Entry → Value)

/-- Entries put into a map one after the other: under each level stands what its entries make of
    the value that it had. -/
theorem foldl_modify_mapOf (default : Value) (keep : Value → Bool)
    (dropped : ∀ value, keep value = false → value = default)
    (kept : ∀ value entry, keep (step value entry) = true) (entries : List Entry) :
    entries.foldl (fun map entry => (key entry).modify default (step · entry) map)
        (mapOf keep all value) =
      mapOf keep all fun level => (entries.filter (key · == level)).foldl step (value level) := by
  induction entries generalizing value with
  | nil => rfl
  | cons entry entries ih =>
      rw [List.foldl_cons, modify_mapOf value dropped (kept _ entry) all_ascending (mem_all _), ih]
      refine mapOf_congr fun level _ => ?_
      rw [List.filter_cons]
      by_cases same : key entry = level
      · rw [if_pos (beq_iff_eq.mpr same), if_pos same.symm, List.foldl_cons]
      · rw [if_neg fun equal => same (beq_iff_eq.mp equal), if_neg (Ne.symm same)]

end Modify

end Level

theorem countLevels_eq (levels : List Level) :
    countLevels levels = Level.mapOf (· != 0) Level.all levels.count := by
  have counted := Level.foldl_modify_mapOf (fun _ => 0) id (fun count _ => count + 1) 0
    (· != 0) (by simp) (by simp) levels
  refine counted.trans (Level.mapOf_congr fun level _ => ?_)
  rw [List.foldl_add_const, List.count_eq_length_filter, Nat.zero_add, Nat.one_mul]
  rfl

theorem Report.byLevel_eq (files : List ClassifiedFile) :
    byLevel files =
      Level.mapOf (!·.isEmpty) Level.all fun level => files.filter (·.level == level) := by
  have grouped := Level.foldl_modify_mapOf (fun _ => []) ClassifiedFile.level
    (fun group file => group ++ [file]) [] (!·.isEmpty) (by simp) (by simp) files
  refine grouped.trans (Level.mapOf_congr fun level _ => ?_)
  rw [List.foldl_append_eq_append, List.nil_append, ← List.flatMap_def]
  exact List.flatMap_singleton' _

end ReleaseDrift
