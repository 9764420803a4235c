import Mathlib.Data.List.Forall2
import ReleaseDrift.CommandLine.Arguments
import ReleaseDrift.Proofs.Text.Cut

/-!
Pairs of versions on the command line, the releases they stand for and the files these are
looked up in. A pair is cut at its first three dots and joined again around them, so that dots
inside of a version do no harm.
-/

namespace ReleaseDrift

open Text

structure SplitsInto (pair old new : String) : Prop where
  whole : pair = old ++ "..." ++ new
  first : ∀ earlier rest, pair = earlier ++ "..." ++ rest → old.length ≤ earlier.length
  old_ne : old ≠ ""
  new_ne : new ≠ ""

def IsVersionPair (pair : String) : Prop := ∃ old new, SplitsInto pair old new

theorem SplitsInto.cut?_eq {pair old new : String} (splits : SplitsInto pair old new) :
    cut? "...".toList pair.toList = some (old.toList, new.toList) := by
  rw [cut?_eq_some_iff]
  constructor
  · rw [splits.whole, String.toList_append, String.toList_append]
  · intro earlier rest other
    have cut : pair = String.ofList earlier ++ "..." ++ String.ofList rest := by
      rw [← String.toList_inj, other]
      simp
    have bound := splits.first _ _ cut
    rwa [← String.length_toList, ← String.length_toList, String.toList_ofList] at bound

theorem splitsInto_of_cut? {pair : String} {old new : List Char}
    (cut : cut? "...".toList pair.toList = some (old, new)) (old_ne : old ≠ [])
    (new_ne : new ≠ []) : SplitsInto pair (.ofList old) (.ofList new) := by
  obtain ⟨whole, first⟩ := cut?_eq_some_iff.mp cut
  refine ⟨?_, ?_, by simpa using old_ne, by simpa using new_ne⟩
  · rw [← String.toList_inj, whole]
    simp
  · intro earlier rest other
    rw [← String.length_toList, ← String.length_toList, String.toList_ofList]
    exact first earlier.toList rest.toList (by rw [other]; simp)

theorem SplitsInto.unique {pair old new other newer : String} (splits : SplitsInto pair old new)
    (again : SplitsInto pair other newer) : old = other ∧ new = newer := by
  have same := splits.cut?_eq.symm.trans again.cut?_eq
  simpa [String.toList_inj] using same

def IsRooted (path : String) : Prop := path.toList.head? = some '/'

def entryLead (dir : String) : String :=
  if dir.isEmpty ∨ dir.toList.getLast? = some '/' then dir else dir ++ "/"

theorem joinPath_of_not_isRooted {name : String} (relative : ¬ IsRooted name) (dir : String) :
    joinPath dir name = entryLead dir ++ name := by
  rw [IsRooted] at relative
  rw [joinPath, if_neg relative, entryLead]
  split <;> rfl

namespace Release

structure IsOf (request : Release) (repo pair : String) : Prop where
  repo_eq : request.repo = repo
  splits : SplitsInto pair request.oldRef request.newRef

variable {files : Files} {dir repo pair : String} {request : Release}

theorem IsOf.pair_eq (isOf : request.IsOf repo pair) : request.pair = pair :=
  isOf.splits.whole.symm

theorem IsOf.unique {other : Release} (isOf : request.IsOf repo pair)
    (again : other.IsOf repo pair) : request = other := by
  obtain ⟨sameOld, sameNew⟩ := isOf.splits.unique again.splits
  have sameRepo := isOf.repo_eq.trans again.repo_eq.symm
  cases request
  cases other
  simp only [mk.injEq]
  exact ⟨sameRepo, sameOld, sameNew⟩

theorem IsOf.isRooted_append (isOf : request.IsOf repo pair) (tail : String) :
    IsRooted (pair ++ tail) ↔ IsRooted pair := by
  have filled : pair.toList ≠ [] := by
    rw [isOf.splits.whole]
    simp [isOf.splits.old_ne]
  rw [IsRooted, IsRooted, String.toList_append, List.head?_append,
    List.head?_eq_some_head filled, Option.some_or]

theorem IsOf.payloadPath (isOf : request.IsOf repo pair)
    (directory : (files dir).isDirectory = true) (relative : ¬ IsRooted pair) :
    request.payloadPath files dir = entryLead dir ++ pair ++ ".json" := by
  have named : ¬ IsRooted (pair ++ ".json") := by rwa [isOf.isRooted_append]
  rw [Release.payloadPath, if_pos directory, isOf.pair_eq, joinPath_of_not_isRooted named,
    String.append_assoc]

/-- The comparison of a request is what stands at one path of a directory. No other file has a
    part in it. -/
structure LooksUp (request : Release) (files : Files) (dir path : String) : Prop where
  path_eq : request.payloadPath files dir = path
  found : (files path).exists? = true →
    Comparison.ofRelease files dir request = Comparison.load files path
  missing : (files path).exists? = false →
    Comparison.ofRelease files dir request =
      .error (.unavailable (request.display ++ ": " ++ path ++ " not found"))
  only : ∀ other : Files, other dir = files dir → other path = files path →
    Comparison.ofRelease other dir request = Comparison.ofRelease files dir request

theorem looksUp_payloadPath (request : Release) (files : Files) (dir : String) :
    request.LooksUp files dir (request.payloadPath files dir) where
  path_eq := rfl
  found := by
    intro found
    rw [Comparison.ofRelease, if_pos found]
  missing := by
    intro missing
    simp only [Comparison.ofRelease, missing, Bool.false_eq_true, if_false]
  only := by
    intro other sameDir samePath
    have path : request.payloadPath other dir = request.payloadPath files dir := by
      rw [Release.payloadPath, Release.payloadPath, sameDir]
    simp only [Comparison.ofRelease, Comparison.load, path, samePath]

end Release

namespace CommandLine

theorem release?_eq_some_iff {repo pair : String} {request : Release} :
    release? repo pair = some request ↔ request.IsOf repo pair := by
  constructor
  · intro found
    rw [release?] at found
    split at found
    · rename_i old new cut
      rw [Option.ite_none_left_eq_some, Bool.or_eq_true, not_or, List.isEmpty_iff,
        List.isEmpty_iff] at found
      obtain ⟨⟨old_ne, new_ne⟩, same⟩ := found
      cases same
      exact ⟨rfl, splitsInto_of_cut? cut old_ne new_ne⟩
    · cases found
  · obtain ⟨owner, old, new⟩ := request
    rintro ⟨rfl, splits⟩
    rw [release?, splits.cut?_eq]
    simp [splits.old_ne, splits.new_ne]

theorem release?_eq_none_iff {repo pair : String} :
    release? repo pair = none ↔ ¬ IsVersionPair pair := by
  constructor
  · rintro none ⟨old, new, splits⟩
    have found : release? repo pair = some ⟨repo, old, new⟩ :=
      release?_eq_some_iff.mpr ⟨rfl, splits⟩
    rw [none] at found
    cases found
  · intro malformed
    rw [Option.eq_none_iff_forall_ne_some]
    intro request found
    exact malformed ⟨_, _, (release?_eq_some_iff.mp found).splits⟩

theorem releases_cons_eq_ok_iff {repo pair : String} {pairs : List String}
    {requests : List Release} :
    releases repo (pair :: pairs) = .ok requests ↔
      ∃ request more, requests = request :: more ∧ request.IsOf repo pair ∧
        releases repo pairs = .ok more := by
  simp only [releases, ← release?_eq_some_iff]
  cases release? repo pair with
  | none => simp
  | some request => cases releases repo pairs <;> simp [Except.map, eq_comm]

theorem releases_cons_eq_error_iff {repo pair bad : String} {pairs : List String} :
    releases repo (pair :: pairs) = .error bad ↔
      bad = pair ∧ ¬ IsVersionPair pair ∨
        IsVersionPair pair ∧ releases repo pairs = .error bad := by
  rw [releases]
  cases found : release? repo pair with
  | none =>
      have malformed := release?_eq_none_iff.mp found
      simp [malformed, eq_comm]
  | some request =>
      have formed : IsVersionPair pair := ⟨_, _, (release?_eq_some_iff.mp found).splits⟩
      cases releases repo pairs <;> simp [formed, Except.map]

theorem releases_eq_ok_iff {repo : String} {pairs : List String} {requests : List Release} :
    releases repo pairs = .ok requests ↔
      List.Forall₂ (fun pair request => request.IsOf repo pair) pairs requests := by
  induction pairs generalizing requests with
  | nil => simp [releases, eq_comm]
  | cons pair pairs ih =>
      simp only [releases_cons_eq_ok_iff, ih, List.forall₂_cons_left_iff]
      constructor
      · rintro ⟨request, more, rfl, isOf, rest⟩
        exact ⟨request, more, isOf, rest, rfl⟩
      · rintro ⟨request, more, isOf, rest, rfl⟩
        exact ⟨request, more, rfl, isOf, rest⟩

theorem releases_eq_error_iff {repo bad : String} {pairs : List String} :
    releases repo pairs = .error bad ↔
      ∃ before after, pairs = before ++ bad :: after ∧ (∀ pair ∈ before, IsVersionPair pair) ∧
        ¬ IsVersionPair bad := by
  induction pairs with
  | nil => simp [releases]
  | cons pair pairs ih =>
      rw [releases_cons_eq_error_iff, ih]
      constructor
      · rintro (⟨rfl, malformed⟩ | ⟨formed, before, after, rfl, wellFormed, malformed⟩)
        · exact ⟨[], pairs, rfl, by simp, malformed⟩
        · exact ⟨pair :: before, after, rfl, List.forall_mem_cons.mpr ⟨formed, wellFormed⟩,
            malformed⟩
      · rintro ⟨before, after, split, wellFormed, malformed⟩
        cases before with
        | nil =>
            obtain ⟨rfl, rfl⟩ := List.cons.inj split
            exact Or.inl ⟨rfl, malformed⟩
        | cons first before =>
            obtain ⟨rfl, rfl⟩ := List.cons.inj split
            rw [List.forall_mem_cons] at wellFormed
            exact Or.inr ⟨wellFormed.1, before, after, rfl, wellFormed.2, malformed⟩

theorem exists_releases_eq_ok_iff {repo : String} {pairs : List String} :
    (∃ requests, releases repo pairs = .ok requests) ↔ ∀ pair ∈ pairs, IsVersionPair pair := by
  induction pairs with
  | nil => simp [releases]
  | cons pair pairs ih =>
      rw [List.forall_mem_cons, ← ih]
      simp only [releases_cons_eq_ok_iff]
      constructor
      · rintro ⟨_, request, more, rfl, isOf, rest⟩
        exact ⟨⟨_, _, isOf.splits⟩, more, rest⟩
      · rintro ⟨⟨old, new, splits⟩, more, rest⟩
        exact ⟨_, ⟨repo, old, new⟩, more, rfl, ⟨rfl, splits⟩, rest⟩

/-- What becomes of the pairs of a command line. -/
structure ResolvesPairs (repo : String) (pairs : List String) : Prop where
  succeeds_iff :
    (∃ requests, releases repo pairs = .ok requests) ↔ ∀ pair ∈ pairs, IsVersionPair pair
  inOrder : ∀ requests, releases repo pairs = .ok requests →
    List.Forall₂ (fun pair request => request.IsOf repo pair ∧ request.pair = pair) pairs requests
  lookup : ∀ requests, releases repo pairs = .ok requests →
    ∀ (files : Files) (dir : String), (files dir).isDirectory = true →
      ∀ request ∈ requests, ¬ IsRooted request.pair →
        request.LooksUp files dir (entryLead dir ++ request.pair ++ ".json")
  apart : ∀ requests, releases repo pairs = .ok requests →
    ∀ (files : Files) (dir : String), (files dir).isDirectory = true →
      ∀ request ∈ requests, ∀ other ∈ requests, ¬ IsRooted request.pair → ¬ IsRooted other.pair →
        request.payloadPath files dir = other.payloadPath files dir → request = other
  fails_iff : ∀ bad, releases repo pairs = .error bad ↔
    ∃ before after, pairs = before ++ bad :: after ∧ (∀ pair ∈ before, IsVersionPair pair) ∧
      ¬ IsVersionPair bad

theorem isOf_of_mem_releases {repo : String} {pairs : List String} {requests : List Release}
    (resolved : releases repo pairs = .ok requests) {request : Release}
    (member : request ∈ requests) : request.IsOf repo request.pair := by
  have each := releases_eq_ok_iff.mp resolved
  clear resolved
  induction each with
  | nil => cases member
  | cons isOf _ ih =>
      rcases List.mem_cons.mp member with rfl | later
      · rwa [isOf.pair_eq]
      · exact ih later

theorem releases_resolvesPairs (repo : String) (pairs : List String) :
    ResolvesPairs repo pairs where
  succeeds_iff := exists_releases_eq_ok_iff
  inOrder := by
    intro requests resolved
    refine (releases_eq_ok_iff.mp resolved).imp ?_
    intro pair request isOf
    exact ⟨isOf, isOf.pair_eq⟩
  lookup := by
    intro requests resolved files dir directory request member relative
    rw [← (isOf_of_mem_releases resolved member).payloadPath directory relative]
    exact request.looksUp_payloadPath files dir
  apart := by
    intro requests resolved files dir directory request member other otherMember relative
      otherRelative same
    have isOf := isOf_of_mem_releases resolved member
    have otherIsOf := isOf_of_mem_releases resolved otherMember
    rw [isOf.payloadPath directory relative, otherIsOf.payloadPath directory otherRelative] at same
    have samePair : request.pair = other.pair := by simpa using same
    exact isOf.unique (samePair ▸ otherIsOf)
  fails_iff := fun _ => releases_eq_error_iff

/-- A version may itself hold three dots, or start with a dot. -/
example : releases "sdk" ["v1...v2...v3", "v1....2"] =
    .ok [⟨"sdk", "v1", "v2...v3"⟩, ⟨"sdk", "v1", ".2"⟩] := by decide +kernel

end CommandLine

end ReleaseDrift
