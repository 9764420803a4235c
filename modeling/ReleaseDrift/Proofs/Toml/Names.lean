import Mathlib.Data.List.Nodup
import ReleaseDrift.Proofs.SortedMap
import ReleaseDrift.Toml.Reader
import ReleaseDrift.Toml.Settled

/-!
The names at the top of a document. Whatever its statements add, move or refuse, each name
stands there once, so that sorting a document by its names loses nothing.
-/

namespace ReleaseDrift.Toml

namespace Members

def AreDistinct {α : Type} (members : List (String × α)) : Prop := (members.map Prod.fst).Nodup

theorem mem_names_set {name other : String} {item : Item} {members : Members}
    (member : other ∈ (set name item members).map Prod.fst) :
    other = name ∨ other ∈ members.map Prod.fst := by
  induction members with
  | nil => exact Or.inl (List.mem_singleton.mp member)
  | cons first members ih =>
      obtain ⟨key, kept⟩ := first
      rw [set] at member
      split at member
      · rename_i same
        subst same
        exact Or.inr member
      · rcases List.mem_cons.mp member with rfl | later
        · exact Or.inr List.mem_cons_self
        · exact (ih later).imp_right (List.mem_cons_of_mem _)

theorem AreDistinct.set {members : Members} (distinct : AreDistinct members) (name : String)
    (item : Item) : AreDistinct (set name item members) := by
  induction members with
  | nil => exact List.nodup_singleton name
  | cons first members ih =>
      obtain ⟨key, kept⟩ := first
      obtain ⟨fresh, rest⟩ := List.nodup_cons.mp distinct
      rw [Members.set]
      split
      · rename_i same
        subst same
        exact distinct
      · rename_i apart
        refine List.nodup_cons.mpr ⟨?_, ih rest⟩
        intro member
        rcases mem_names_set member with same | later
        · exact apart same
        · exact fresh later

theorem AreDistinct.erase {members : Members} (distinct : AreDistinct members) (name : String) :
    AreDistinct (erase members name) :=
  List.Nodup.sublist (List.filter_sublist.map Prod.fst) distinct

/-- A change that keeps the names of a table apart. -/
def KeepsDistinct (change : Members → Option Members) : Prop :=
  ∀ members changed, AreDistinct members → change members = some changed → AreDistinct changed

theorem keepsDistinct_add? (name : String) (item : Item) :
    KeepsDistinct (fun members => add? members name item) := by
  intro members changed distinct added
  beta_reduce at added
  rw [add?, Option.ite_none_left_eq_some] at added
  obtain ⟨_, same⟩ := added
  cases same
  exact distinct.set name item

theorem keepsDistinct_put? (path : List String) (name : String) (value : Value) :
    KeepsDistinct (put? path name value) := by
  intro members changed distinct done
  cases path with
  | nil => exact keepsDistinct_add? name _ members changed distinct done
  | cons next path =>
      rw [put?] at done
      split at done
      · obtain ⟨inner, _, rfl⟩ := Option.map_eq_some_iff.mp done
        exact distinct.set next _
      · rw [Option.ite_none_left_eq_some] at done
        obtain ⟨inner, _, rfl⟩ := Option.map_eq_some_iff.mp done.2
        exact distinct.set next _
      · rw [Option.ite_none_left_eq_some] at done
        obtain ⟨inner, _, rfl⟩ := Option.map_eq_some_iff.mp done.2
        exact distinct.set next _
      · cases done

theorem keepsDistinct_within? {change : Members → Option Members} (keeps : KeepsDistinct change)
    (path : List String) : KeepsDistinct (within? change path) := by
  intro members changed distinct done
  cases path with
  | nil => exact keeps members changed distinct done
  | cons next path =>
      rw [within?] at done
      split at done
      · obtain ⟨inner, _, rfl⟩ := Option.map_eq_some_iff.mp done
        exact distinct.set next _
      · obtain ⟨inner, _, rfl⟩ := Option.map_eq_some_iff.mp done
        exact distinct.set next _
      · obtain ⟨inner, _, rfl⟩ := Option.map_eq_some_iff.mp done
        exact distinct.set next _
      · cases done

theorem keepsDistinct_define? (key : Key) : KeepsDistinct (define? key) := by
  apply keepsDistinct_within?
  intro members changed distinct done
  beta_reduce at done
  split at done
  · cases done
    exact distinct.set key.name _
  · cases done
    exact (distinct.erase key.name).set key.name _
  · cases done

theorem keepsDistinct_extend? (key : Key) : KeepsDistinct (extend? key) := by
  apply keepsDistinct_within?
  intro members changed distinct done
  beta_reduce at done
  split at done
  · cases done
    exact distinct.set key.name _
  · cases done
    exact distinct.set key.name _
  · cases done

end Members

open Members

theorem Draft.areDistinct_push? {draft pushed : Draft} {statement : Statement}
    (distinct : AreDistinct draft.members) (done : draft.push? statement = some pushed) :
    AreDistinct pushed.members := by
  cases statement with
  | pair key value =>
      obtain ⟨members, changed, rfl⟩ := Option.map_eq_some_iff.mp done
      exact keepsDistinct_within? (keepsDistinct_put? key.path key.name value) draft.current
        draft.members members distinct changed
  | table key =>
      obtain ⟨members, changed, rfl⟩ := Option.map_eq_some_iff.mp done
      exact keepsDistinct_define? key draft.members members distinct changed
  | arrayTable key =>
      obtain ⟨members, changed, rfl⟩ := Option.map_eq_some_iff.mp done
      exact keepsDistinct_extend? key draft.members members distinct changed

theorem Draft.areDistinct_foldlM {draft finished : Draft} {statements : List Statement}
    (distinct : AreDistinct draft.members)
    (done : statements.foldlM Draft.push? draft = some finished) :
    AreDistinct finished.members := by
  induction statements generalizing draft with
  | nil =>
      cases done
      exact distinct
  | cons statement statements ih =>
      rw [List.foldlM_cons] at done
      obtain ⟨pushed, first, rest⟩ := Option.bind_eq_some_iff.mp done
      exact ih (Draft.areDistinct_push? distinct first) rest

theorem names_toValues (members : Members) :
    (toValues members).map Prod.fst = members.map Prod.fst := by
  induction members with
  | nil => rfl
  | cons entry members ih =>
      obtain ⟨name, item⟩ := entry
      exact congrArg (name :: ·) ih

theorem areDistinct_ofText? {s : List Char} {members : List (String × Value)}
    (parsed : ofText? s = some members) : AreDistinct members := by
  obtain ⟨statements, _, rest⟩ := Option.bind_eq_some_iff.mp parsed
  obtain ⟨draft, done, same⟩ := Option.bind_eq_some_iff.mp rest
  cases same
  rw [AreDistinct, names_toValues]
  have begun : AreDistinct ({} : Draft).members := List.nodup_nil
  exact Draft.areDistinct_foldlM begun done

section Settled

variable {members settled : List (String × Value)}

theorem Members.AreDistinct.get?_ofList (distinct : AreDistinct members) (key : String) :
    SortedMap.get? (SortedMap.ofList members) key = SortedMap.get? members key := by
  induction members with
  | nil => rfl
  | cons entry members ih =>
      obtain ⟨name, value⟩ := entry
      obtain ⟨fresh, rest⟩ := List.nodup_cons.mp distinct
      rw [SortedMap.get?_ofList_cons, SortedMap.get?_cons, ih rest]
      split
      · rename_i same
        have absent : SortedMap.get? members key = none := by
          apply SortedMap.get?_eq_none_of_forall
          intro other member known
          exact fresh (List.mem_map.mpr ⟨other, member, known.trans same⟩)
        rw [absent, Option.none_or]
      · rw [Option.or_none]

theorem get?_settledMembers? (done : settledMembers? members = some settled) (key : String) :
    (SortedMap.get? settled key).map some = (SortedMap.get? members key).map (·.settled?) := by
  induction members generalizing settled with
  | nil =>
      cases done
      rfl
  | cons entry members ih =>
      obtain ⟨name, value⟩ := entry
      obtain ⟨first, firstDone, done⟩ := Option.bind_eq_some_iff.mp done
      obtain ⟨rest, restDone, rfl⟩ := Option.map_eq_some_iff.mp done
      rw [SortedMap.get?_cons, SortedMap.get?_cons]
      split
      · rw [Option.map_some, Option.map_some, firstDone]
      · exact ih restDone

theorem names_settledMembers? (done : settledMembers? members = some settled) :
    settled.map Prod.fst = members.map Prod.fst := by
  induction members generalizing settled with
  | nil =>
      cases done
      rfl
  | cons entry members ih =>
      obtain ⟨first, _, done⟩ := Option.bind_eq_some_iff.mp done
      obtain ⟨rest, restDone, rfl⟩ := Option.map_eq_some_iff.mp done
      exact congrArg (entry.1 :: ·) (ih restDone)

theorem get?_settle? (distinct : AreDistinct members) (done : settle? members = some settled)
    (key : String) :
    (SortedMap.get? settled key).map some = (SortedMap.get? members key).map (·.settled?) := by
  obtain ⟨values, settledEach, rfl⟩ := Option.map_eq_some_iff.mp done
  have sameNames : AreDistinct values := by
    rw [AreDistinct, names_settledMembers? settledEach]
    exact distinct
  rw [sameNames.get?_ofList, get?_settledMembers? settledEach]

end Settled

end ReleaseDrift.Toml
