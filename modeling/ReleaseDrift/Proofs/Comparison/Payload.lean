import Mathlib.Data.List.Forall2
import ReleaseDrift.Comparison.Source
import ReleaseDrift.Proofs.Json.RoundTrip

/-!
Comparisons as JSON and back. A comparison is read from each of its spellings, whatever names
and order of members they choose, and what has been read once is read again unchanged.
-/

namespace ReleaseDrift

open Json (Written)

namespace FileStatus

theorem ofName_name (status : FileStatus) : ofName status.name = status := by
  cases status <;> rfl

theorem ofName_of_unknown {word : String} (unknown : ∀ status : FileStatus, status.name ≠ word) :
    ofName word = changed := by
  have none : all.find? (·.name == word) = none := by
    rw [List.find?_eq_none]
    intro status _ same
    exact unknown status (beq_iff_eq.mp same)
  rw [ofName, none, Option.getD_none]

structure Settles (word : String) : Prop where
  known : ∀ status : FileStatus, status.name = word → ofName word = status
  unknown : (∀ status : FileStatus, status.name ≠ word) → ofName word = changed
  again : ofName (ofName word).name = ofName word

theorem settles (word : String) : Settles word where
  known := by
    rintro status rfl
    exact ofName_name status
  unknown := ofName_of_unknown
  again := ofName_name (ofName word)

end FileStatus

theorem Json.mem_optional {name : String} {value : Option Json} {member : String × Json} :
    member ∈ Json.optional name value ↔ ∃ given, value = some given ∧ member = (name, given) := by
  cases value <;> simp [Json.optional]

theorem Json.Written.IsExact.ofNat {n : Nat} (small : n < countLimit) : IsExact (.ofNat n) := by
  refine .int ⟨?_, ?_⟩
  · omega
  · have limit : countLimit < Nat.pow 2 64 := by decide
    omega

theorem orDefault?_optionalText? (text : Option String) :
    orDefault? none Written.optionalText? (text.map fun text => .ofJson (.str text)) =
      some text := by
  cases text with
  | none => rfl
  | some text => rw [Option.map_some, Written.ofJson]; rfl

theorem lt_of_orDefault?_count? {count : Option Written} {n : Nat}
    (read : orDefault? 0 Written.count? count = some n) : n < Written.countLimit := by
  cases count with
  | none =>
      cases read
      decide
  | some written => exact Written.count?_lt read

namespace ChangedFile

def InRange (file : ChangedFile) : Prop :=
  file.additions < Written.countLimit ∧ file.deletions < Written.countLimit

def members (pathName word : String) (file : ChangedFile) : List (String × Json) :=
  [(pathName, .str file.path), ("status", .str word),
    ("additions", .ofNat file.additions), ("deletions", .ofNat file.deletions)] ++
    Json.optional "patch" (file.patch.map .str)

/-- A file as an object, with either name of its path, any word for its status and the members in
    any order. -/
def IsSpelling (file : ChangedFile) (value : Json) : Prop :=
  ∃ pathName ∈ ["path", "filename"], ∃ word, FileStatus.ofName word = file.status ∧
    ∃ members, value = .obj members ∧ members.Perm (file.members pathName word)

theorem fields?_members {pathName : String} (known : pathName ∈ ["path", "filename"])
    (word : String) (file : ChangedFile) :
    (Written.ofJson (.obj (file.members pathName word))).fields?
        [["path", "filename"], ["status"], ["additions"], ["deletions"], ["patch"]] =
      some [some (.ofJson (.str file.path)), some (.ofJson (.str word)),
        some (.ofJson (.ofNat file.additions)), some (.ofJson (.ofNat file.deletions)),
        file.patch.map fun patch => .ofJson (.str patch)] := by
  rw [List.mem_pair] at known
  rw [Written.fields?_ofJson, members]
  rcases known with rfl | rfl <;> cases file.patch <;> simp [Written.field?, Json.optional]

structure Reads (file : ChangedFile) (path status : Written)
    (additions deletions patch : Option Written) : Prop where
  path_eq : path.text? = some file.path
  status_eq : FileStatus.ofWritten? status = some file.status
  additions_eq : orDefault? 0 Written.count? additions = some file.additions
  deletions_eq : orDefault? 0 Written.count? deletions = some file.deletions
  patch_eq : orDefault? none Written.optionalText? patch = some file.patch

theorem ofWritten?_eq_some_iff {written : Written} {file : ChangedFile} :
    ofWritten? written = some file ↔ ∃ path status additions deletions patch,
      written.fields?
          [["path", "filename"], ["status"], ["additions"], ["deletions"], ["patch"]] =
        some [some path, some status, additions, deletions, patch] ∧
      file.Reads path status additions deletions patch := by
  rw [ofWritten?]
  constructor
  · intro read
    split at read
    · rename_i path status additions deletions patch fields
      obtain ⟨pathText, path_eq, read⟩ := Option.bind_eq_some_iff.mp read
      obtain ⟨word, status_eq, read⟩ := Option.bind_eq_some_iff.mp read
      obtain ⟨added, additions_eq, read⟩ := Option.bind_eq_some_iff.mp read
      obtain ⟨deleted, deletions_eq, read⟩ := Option.bind_eq_some_iff.mp read
      obtain ⟨patchText, patch_eq, same⟩ := Option.bind_eq_some_iff.mp read
      cases same
      exact ⟨path, status, additions, deletions, patch, fields, path_eq, status_eq, additions_eq,
        deletions_eq, patch_eq⟩
    · cases read
  · rintro ⟨path, status, additions, deletions, patch, fields, reads⟩
    rw [fields]
    simp only [reads.path_eq, reads.status_eq, reads.additions_eq, reads.deletions_eq,
      reads.patch_eq]
    rfl

theorem reads_members {file : ChangedFile} (inRange : file.InRange) {word : String}
    (meant : FileStatus.ofName word = file.status) :
    file.Reads (.ofJson (.str file.path)) (.ofJson (.str word))
      (some (.ofJson (.ofNat file.additions))) (some (.ofJson (.ofNat file.deletions)))
      (file.patch.map fun patch => .ofJson (.str patch)) where
  path_eq := by rw [Written.ofJson, Written.text?]
  status_eq := by rw [Written.ofJson, FileStatus.ofWritten?, meant]
  additions_eq := by rw [orDefault?, Written.count?_ofNat inRange.1]
  deletions_eq := by rw [orDefault?, Written.count?_ofNat inRange.2]
  patch_eq := orDefault?_optionalText? file.patch

theorem ofWritten?_of_isSpelling {file : ChangedFile} {value : Json} (inRange : file.InRange)
    (spelling : file.IsSpelling value) : ofWritten? (.ofJson value) = some file := by
  obtain ⟨pathName, known, word, meant, members, rfl, same⟩ := spelling
  rw [ofWritten?_eq_some_iff, Written.fields?_ofJson_perm same, fields?_members known]
  exact ⟨_, _, _, _, _, rfl, reads_members inRange meant⟩

theorem IsSpelling.isExact {file : ChangedFile} {value : Json} (spelling : file.IsSpelling value)
    (inRange : file.InRange) : Written.IsExact value := by
  obtain ⟨pathName, _, word, _, members, rfl, same⟩ := spelling
  refine .obj fun member listed => ?_
  have listed := same.mem_iff.mp listed
  simp only [ChangedFile.members, List.mem_append, List.mem_cons, List.not_mem_nil, or_false,
    Json.mem_optional, Option.map_eq_some_iff] at listed
  rcases listed with (rfl | rfl | rfl | rfl) | ⟨_, ⟨patch, _, rfl⟩, rfl⟩
  · exact .str _
  · exact .str _
  · exact .ofNat inRange.1
  · exact .ofNat inRange.2
  · exact .str _

theorem Reads.inRange {file : ChangedFile} {path status : Written}
    {additions deletions patch : Option Written}
    (reads : file.Reads path status additions deletions patch) : file.InRange :=
  ⟨lt_of_orDefault?_count? reads.additions_eq, lt_of_orDefault?_count? reads.deletions_eq⟩

theorem inRange_of_ofWritten? {written : Written} {file : ChangedFile}
    (read : ofWritten? written = some file) : file.InRange := by
  obtain ⟨_, _, _, _, _, _, reads⟩ := ofWritten?_eq_some_iff.mp read
  exact reads.inRange

theorem listOfWritten?_arr {files : List ChangedFile} {values : List Json}
    (inRange : ∀ file ∈ files, file.InRange)
    (spellings : List.Forall₂ IsSpelling files values) :
    listOfWritten? (.ofJson (.arr values)) = some files := by
  rw [Written.ofJson_arr, listOfWritten?, Written.mapM_eq_some_iff, List.forall₂_map_left_iff]
  induction spellings with
  | nil => exact .nil
  | cons spelling _ ih =>
      rw [List.forall_mem_cons] at inRange
      exact .cons (ofWritten?_of_isSpelling inRange.1 spelling) (ih inRange.2)

theorem inRange_of_listOfWritten? {written : Written} {files : List ChangedFile}
    (read : listOfWritten? written = some files) : ∀ file ∈ files, file.InRange := by
  unfold listOfWritten? at read
  split at read
  · intro file listed
    obtain ⟨item, _, readFile⟩ :=
      Written.exists_mem_of_forall₂ (Written.mapM_eq_some_iff.mp read) listed
    exact inRange_of_ofWritten? readFile
  · cases read

end ChangedFile

namespace Comparison

def InRange (comparison : Comparison) : Prop :=
  comparison.commitCount < Written.countLimit ∧ ∀ file ∈ comparison.files, file.InRange

def members (countName urlName : String) (files : List Json) (comparison : Comparison) :
    List (String × Json) :=
  [("files", .arr files), (countName, .ofNat comparison.commitCount)] ++
    Json.optional urlName (comparison.compareUrl.map .str)

/-- A comparison as an object, with either name of each field and the members in any order. -/
def IsSpelling (comparison : Comparison) (value : Json) : Prop :=
  ∃ countName ∈ ["commit_count", "total_commits"], ∃ urlName ∈ ["compare_url", "html_url"],
    ∃ files members, List.Forall₂ ChangedFile.IsSpelling comparison.files files ∧
      value = .obj members ∧ members.Perm (comparison.members countName urlName files)

structure Reads (comparison : Comparison) (files count url : Option Written) : Prop where
  files_eq : orDefault? [] ChangedFile.listOfWritten? files = some comparison.files
  count_eq : orDefault? 0 Written.count? count = some comparison.commitCount
  url_eq : orDefault? none Written.optionalText? url = some comparison.compareUrl

theorem ofWritten?_eq_some_iff {written : Written} {comparison : Comparison} :
    ofWritten? written = some comparison ↔ ∃ files count url,
      written.fields?
          [["files"], ["commit_count", "total_commits"], ["compare_url", "html_url"]] =
        some [files, count, url] ∧ comparison.Reads files count url := by
  rw [ofWritten?]
  constructor
  · intro read
    split at read
    · rename_i files count url fields
      obtain ⟨list, files_eq, read⟩ := Option.bind_eq_some_iff.mp read
      obtain ⟨number, count_eq, read⟩ := Option.bind_eq_some_iff.mp read
      obtain ⟨text, url_eq, same⟩ := Option.bind_eq_some_iff.mp read
      cases same
      exact ⟨files, count, url, fields, files_eq, count_eq, url_eq⟩
    · cases read
  · rintro ⟨files, count, url, fields, reads⟩
    rw [fields]
    simp only [reads.files_eq, reads.count_eq, reads.url_eq]
    rfl

theorem fields?_members {countName urlName : String}
    (countKnown : countName ∈ ["commit_count", "total_commits"])
    (urlKnown : urlName ∈ ["compare_url", "html_url"]) (files : List Json)
    (comparison : Comparison) :
    (Written.ofJson (.obj (comparison.members countName urlName files))).fields?
        [["files"], ["commit_count", "total_commits"], ["compare_url", "html_url"]] =
      some [some (.ofJson (.arr files)), some (.ofJson (.ofNat comparison.commitCount)),
        comparison.compareUrl.map fun url => .ofJson (.str url)] := by
  rw [List.mem_pair] at countKnown urlKnown
  rw [Written.fields?_ofJson, members]
  rcases countKnown with rfl | rfl <;> rcases urlKnown with rfl | rfl <;>
    cases comparison.compareUrl <;> simp [Written.field?, Json.optional]

theorem ofWritten?_of_isSpelling {comparison : Comparison} {value : Json}
    (inRange : comparison.InRange) (spelling : comparison.IsSpelling value) :
    ofWritten? (.ofJson value) = some comparison := by
  obtain ⟨countName, countKnown, urlName, urlKnown, files, members, spellings, rfl, same⟩ :=
    spelling
  rw [ofWritten?_eq_some_iff, Written.fields?_ofJson_perm same,
    fields?_members countKnown urlKnown]
  refine ⟨_, _, _, rfl, ?_, ?_, ?_⟩
  · rw [orDefault?, ChangedFile.listOfWritten?_arr inRange.2 spellings]
  · rw [orDefault?, Written.count?_ofNat inRange.1]
  · exact orDefault?_optionalText? comparison.compareUrl

theorem inRange_of_ofWritten? {written : Written} {comparison : Comparison}
    (read : ofWritten? written = some comparison) : comparison.InRange := by
  obtain ⟨files, count, url, _, reads⟩ := ofWritten?_eq_some_iff.mp read
  refine ⟨lt_of_orDefault?_count? reads.count_eq, ?_⟩
  have files_eq := reads.files_eq
  cases files with
  | none =>
      rw [orDefault?, Option.some.injEq] at files_eq
      rw [← files_eq]
      simp
  | some written => exact ChangedFile.inRange_of_listOfWritten? files_eq

theorem IsSpelling.isExact {comparison : Comparison} {value : Json}
    (spelling : comparison.IsSpelling value) (inRange : comparison.InRange) :
    Written.IsExact value := by
  obtain ⟨countName, _, urlName, _, files, members, spellings, rfl, same⟩ := spelling
  refine .obj fun member listed => ?_
  have listed := same.mem_iff.mp listed
  simp only [Comparison.members, List.mem_append, List.mem_cons, List.not_mem_nil, or_false,
    Json.mem_optional, Option.map_eq_some_iff] at listed
  rcases listed with (rfl | rfl) | ⟨_, ⟨url, _, rfl⟩, rfl⟩
  · refine .arr fun value listed => ?_
    obtain ⟨file, known, spelling⟩ := Written.exists_mem_of_forall₂ spellings listed
    exact spelling.isExact (inRange.2 file known)
  · exact .ofNat inRange.1
  · exact .str _

theorem isSpelling_toJson (comparison : Comparison) : comparison.IsSpelling comparison.toJson := by
  refine ⟨"commit_count", by simp, "compare_url", by simp, comparison.files.map (·.toJson), _,
    ?_, rfl, .refl _⟩
  rw [List.forall₂_map_right_iff, List.forall₂_same]
  intro file _
  exact ⟨"path", by simp, file.status.name, FileStatus.ofName_name _, _, rfl, .refl _⟩

theorem ofText?_of_isSpelling {comparison : Comparison} {value : Json}
    (inRange : comparison.InRange) (spelling : comparison.IsSpelling value) :
    ofText? value.pretty = some comparison := by
  rw [ofText?, Written.ofText?_pretty (spelling.isExact inRange), Option.bind_some,
    ofWritten?_of_isSpelling inRange spelling]

/-- A comparison is written so that it is read back. -/
structure ReadsBack (comparison : Comparison) : Prop where
  spelled : comparison.InRange → ∀ value, comparison.IsSpelling value →
    ofWritten? (.ofJson value) = some comparison ∧ ofText? value.pretty = some comparison
  toJson : comparison.IsSpelling comparison.toJson
  again : ∀ written, ofWritten? written = some comparison →
    comparison.InRange ∧ ofWritten? (.ofJson comparison.toJson) = some comparison
  textAgain : ∀ text, ofText? text = some comparison →
    ofText? comparison.toJson.pretty = some comparison
  statuses : ∀ word, FileStatus.Settles word

theorem readsBack (comparison : Comparison) : comparison.ReadsBack where
  spelled := by
    intro inRange value spelling
    exact ⟨ofWritten?_of_isSpelling inRange spelling, ofText?_of_isSpelling inRange spelling⟩
  toJson := isSpelling_toJson comparison
  again := by
    intro written read
    have inRange := inRange_of_ofWritten? read
    exact ⟨inRange, ofWritten?_of_isSpelling inRange (isSpelling_toJson comparison)⟩
  textAgain := by
    intro text read
    obtain ⟨written, _, read⟩ := Option.bind_eq_some_iff.mp read
    exact ofText?_of_isSpelling (inRange_of_ofWritten? read) (isSpelling_toJson comparison)
  statuses := FileStatus.settles

end Comparison

end ReleaseDrift
