import ReleaseDrift.Proofs.Glob.DirPattern
import ReleaseDrift.Proofs.Verdict

/-!
What counts as a model file. The files whose diff is scanned start with the model directory as it
is written; the files that are likely to break lie under it, however many slashes end it. The two
agree for a directory that is written with one slash at its end.
-/

namespace ReleaseDrift

def slashesAfter (name path : List Char) : Nat :=
  ((path.drop name.length).takeWhile (· == '/')).length

theorem takeWhile_eq_replicate {α : Type} [DecidableEq α] (a : α) (s : List α) :
    s.takeWhile (· == a) = List.replicate (s.takeWhile (· == a)).length a :=
  List.eq_replicate_of_mem fun _ member =>
    eq_of_beq (List.mem_takeWhile_imp (p := (· == a)) member)

theorem replicate_prefix_iff {α : Type} [DecidableEq α] (n : Nat) (a : α) (s : List α) :
    List.replicate n a <+: s ↔ n ≤ (s.takeWhile (· == a)).length := by
  have run := takeWhile_eq_replicate a s
  constructor
  · rintro ⟨rest, rfl⟩
    have all : ∀ b ∈ List.replicate n a, (b == a) = true := fun b member =>
      beq_iff_eq.mpr (List.eq_of_mem_replicate member)
    rw [List.takeWhile_append_of_pos all, List.length_append, List.length_replicate]
    exact Nat.le_add_right n _
  · intro enough
    have shorter : List.replicate n a <+: s.takeWhile (· == a) := by
      rw [run, List.prefix_replicate_iff, List.length_replicate]
      exact ⟨enough, rfl⟩
    exact shorter.trans (List.takeWhile_prefix _)

theorem append_slashes_prefix_iff (name path : List Char) (n : Nat) :
    name ++ List.replicate n '/' <+: path ↔ name <+: path ∧ n ≤ slashesAfter name path := by
  constructor
  · intro before
    have named : name <+: path := (List.prefix_append _ _).trans before
    obtain ⟨rest, rfl⟩ := named
    refine ⟨List.prefix_append _ _, ?_⟩
    rw [slashesAfter, List.drop_left, ← replicate_prefix_iff]
    exact (List.prefix_append_right_inj name).mp before
  · rintro ⟨⟨rest, rfl⟩, enough⟩
    rw [slashesAfter, List.drop_left, ← replicate_prefix_iff] at enough
    exact (List.prefix_append_right_inj name).mpr enough

theorem dirName_append_slashes (dir : String) :
    dirName dir ++ List.replicate (slashesAfter (dirName dir) dir.toList) '/' = dir.toList := by
  have parts : dirName dir ++ dir.toList.rtakeWhile (· == '/') = dir.toList :=
    List.rdropWhile_append_rtakeWhile
  have slashes : ∀ c ∈ dir.toList.rtakeWhile (· == '/'), (c == '/') = true := fun c member =>
    List.mem_rtakeWhile_imp (p := (· == '/')) member
  have after : dir.toList.drop (dirName dir).length = dir.toList.rtakeWhile (· == '/') := by
    conv => lhs; rw [← parts]
    exact List.drop_left
  rw [slashesAfter, after, ← takeWhile_eq_replicate, List.takeWhile_eq_self_iff.mpr slashes, parts]

/-- A modified file with a patch that the rules leave to the model directory: it is of a used
    package, and no pattern of the settings is for it. -/
structure Config.LeavesToModelDir (config : Config) (usage : Usage) (file : ChangedFile) :
    Prop where
  modified : file.status = .modified
  hasPatch : file.hasPatch = true
  metadata : Glob.matchesAny config.impact.metadata file.path = false
  noise : Glob.matchesAny config.impact.noise file.path = false
  used : usage.CoversPackageOf file.path
  breaking : Glob.matchesAny config.impact.breaking file.path = false

theorem mem_modelFiles_iff {files : List ChangedFile} {file : ChangedFile} (listed : file ∈ files)
    (hasPatch : file.hasPatch = true) (modelDir : String) :
    file ∈ modelFiles files modelDir ↔ modelDir.toList <+: file.path.toList := by
  rw [modelFiles, List.mem_filter, and_iff_right listed, hasPatch, Bool.true_or, Bool.and_true,
    file.isUnder_iff]

theorem Config.LeavesToModelDir.likelyBreaking_iff {config : Config} {usage : Usage}
    {file : ChangedFile} (left : config.LeavesToModelDir usage file)
    (plain : ∀ c ∈ config.library.modelDir.toList, Glob.IsPlain c) :
    (config.classify usage file).2 = Reason.likelyBreaking ↔
      Glob.Sound config.impact.breaking ∧ dirName config.library.modelDir ≠ [] ∧
        dirName config.library.modelDir ++ ['/'] <+: file.path.toList := by
  have used : usage.usesPackageOf file.path = true := (usage.usesPackageOf_iff _).mpr left.used
  have reason : (config.classify usage file).2 =
      if Glob.matchesAny config.breakingPatterns file.path then Reason.likelyBreaking
      else Reason.modified := by
    rw [classify, left.metadata, left.noise, used, left.modified]
    simp only [Bool.false_eq_true, if_false, Bool.not_true]
    split <;> rfl
  have different : Reason.modified ≠ Reason.likelyBreaking := by decide
  have patterns : Glob.matchesAny config.breakingPatterns file.path = true ↔
      Glob.Sound config.impact.breaking ∧
        Glob.matchesAny (dirPattern config.library.modelDir) file.path = true := by
    rw [breakingPatterns, Glob.matchesAny_append_iff, left.breaking]
    simp
  rw [reason, ite_eq_left_iff, ← matchesAny_dirPattern_iff plain, ← patterns]
  simp [different]

/-- How the two parts of an analysis that ask for model files take a file: the one scans its diff,
    the other finds its modification likely to break. -/
structure Config.TakesModelFile (config : Config) (usage : Usage) (files : List ChangedFile)
    (file : ChangedFile) : Prop where
  scanned : file ∈ modelFiles files config.library.modelDir ↔
    config.library.modelDir.toList <+: file.path.toList
  likelyBreaking : (config.classify usage file).2 = Reason.likelyBreaking ↔
    Glob.Sound config.impact.breaking ∧ dirName config.library.modelDir ≠ [] ∧
      dirName config.library.modelDir ++ ['/'] <+: file.path.toList
  agree : Glob.Sound config.impact.breaking → dirName config.library.modelDir ≠ [] →
    config.library.modelDir.toList = dirName config.library.modelDir ++ ['/'] →
    (file ∈ modelFiles files config.library.modelDir ↔
      (config.classify usage file).2 = Reason.likelyBreaking)
  /-- In general the slashes after the name decide: to be scanned a path needs as many as the
      directory has, to be found likely to break it needs one. -/
  agree_iff : (file ∈ modelFiles files config.library.modelDir ↔
      (config.classify usage file).2 = Reason.likelyBreaking) ↔
    (dirName config.library.modelDir <+: file.path.toList →
      (slashesAfter (dirName config.library.modelDir) config.library.modelDir.toList ≤
          slashesAfter (dirName config.library.modelDir) file.path.toList ↔
        (Glob.Sound config.impact.breaking ∧ dirName config.library.modelDir ≠ []) ∧
          1 ≤ slashesAfter (dirName config.library.modelDir) file.path.toList))

theorem takesModelFile {config : Config} {usage : Usage} {files : List ChangedFile}
    {file : ChangedFile} (plain : ∀ c ∈ config.library.modelDir.toList, Glob.IsPlain c)
    (listed : file ∈ files) (left : config.LeavesToModelDir usage file) :
    config.TakesModelFile usage files file := by
  have scanned := mem_modelFiles_iff listed left.hasPatch config.library.modelDir
  have likelyBreaking := left.likelyBreaking_iff plain
  refine ⟨scanned, likelyBreaking, ?_, ?_⟩
  · intro sound named oneSlash
    rw [scanned, likelyBreaking, oneSlash]
    exact ⟨fun before => ⟨sound, named, before⟩, fun likely => likely.2.2⟩
  · have ended := append_slashes_prefix_iff (dirName config.library.modelDir) file.path.toList
    rw [← dirName_append_slashes, ended] at scanned
    rw [← List.replicate_one, ended, ← and_assoc, and_left_comm] at likelyBreaking
    rw [scanned, likelyBreaking, and_congr_right_iff]

theorem takesModelFile_of_two_slashes :
    let config : Config :=
      { library := { modelDir := "models//" }, impact := { breaking := ["**/*_client.go"] } }
    let usage : Usage := { models := ["User"], packages := ["models"] }
    let file : ChangedFile :=
      { path := "models/user.go", status := .modified, additions := 0, deletions := 1
        patch := some "@@ -4,3 +4,2 @@\n-    Owner *string\n" }
    (∀ c ∈ config.library.modelDir.toList, Glob.IsPlain c) ∧ config.LeavesToModelDir usage file ∧
      config.TakesModelFile usage [file] file ∧
      file ∉ modelFiles [file] config.library.modelDir ∧
      (config.classify usage file).2 = Reason.likelyBreaking := by
  intro config usage file
  have plain : ∀ c ∈ config.library.modelDir.toList, Glob.IsPlain c := by
    simp [config, Glob.IsPlain]
  have left : config.LeavesToModelDir usage file := {
    modified := rfl
    hasPatch := by decide
    metadata := by decide +kernel
    noise := by decide +kernel
    used := .inr ⟨"models", List.mem_singleton_self _, by decide⟩
    breaking := by decide +kernel }
  have taken := takesModelFile plain (List.mem_singleton_self file) left
  refine ⟨plain, left, taken, ?_, ?_⟩
  · rw [taken.scanned]
    decide
  · rw [taken.likelyBreaking]
    decide +kernel

/-- A directory without a slash at its end: the diff of a file whose path goes on after the name in
    another way is scanned, and its modification is not found likely to break. -/
theorem scanned_without_likelyBreaking :
    let config : Config := { library := { modelDir := "models" }, impact := { breaking := [] } }
    let file : ChangedFile :=
      { path := "models_v2/user.go", status := .modified, additions := 0, deletions := 0
        patch := some "@@ -4,3 +4,2 @@\n-    Owner *string\n" }
    (config.library.modelDir ≠ "" ∧ (∀ c ∈ config.library.modelDir.toList, Glob.IsPlain c) ∧
        config.LeavesToModelDir {} file) ∧
      file ∈ modelFiles [file] config.library.modelDir ∧
      (config.classify {} file).2 = Reason.modified ∧
      ¬ (file ∈ modelFiles [file] config.library.modelDir ↔
        (config.classify {} file).2 = Reason.likelyBreaking) := by
  intro config file
  have plain : ∀ c ∈ config.library.modelDir.toList, Glob.IsPlain c := by
    simp [config, Glob.IsPlain]
  have left : config.LeavesToModelDir {} file := {
    modified := rfl
    hasPatch := by decide
    metadata := by decide +kernel
    noise := by decide +kernel
    used := .inl rfl
    breaking := by decide }
  have scanned : file ∈ modelFiles [file] config.library.modelDir := by decide
  have reason : (config.classify {} file).2 = Reason.modified := by decide +kernel
  refine ⟨⟨by decide, plain, left⟩, scanned, reason, ?_⟩
  intro agree
  rw [reason] at agree
  exact absurd (agree.mp scanned) (by decide)

end ReleaseDrift
