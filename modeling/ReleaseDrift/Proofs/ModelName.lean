import ReleaseDrift.Proofs.Text.Cut
import ReleaseDrift.Usage

/-!
Model names of files and of schemas. A file name puts underscores between the words of a name, a
schema name writes them together with capital letters inside; the model name that is read off
either is the capitalized words in their order.
-/

namespace ReleaseDrift

namespace ModelName

open Text

/-- A word of a name: ASCII letters and digits, at least one. -/
structure IsWord (word : String) : Prop where
  filled : word.toList ≠ []
  chars : ∀ c ∈ word.toList, c.isAlphanum = true

instance (word : String) : Decidable (IsWord word) :=
  decidable_of_iff (word.toList ≠ [] ∧ word.toList.all Char.isAlphanum = true)
    ⟨fun word => ⟨word.1, List.all_eq_true.mp word.2⟩,
      fun word => ⟨word.filled, List.all_eq_true.mpr word.chars⟩⟩

def capitalized (word : String) : String := String.ofList (word.toList.modifyHead Char.toUpper)

def snakeCase (words : List String) : String := "_".intercalate words

def camelCase : List String → String
  | [] => ""
  | word :: words => word ++ String.join (words.map capitalized)

def pascalCase (words : List String) : String := String.join (words.map capitalized)

theorem toNat_lt_of_isAlphanum {c : Char} (plain : c.isAlphanum = true) : c.toNat < 128 := by
  have below {last : Char} (small : last.toNat < 128) (bound : c.val ≤ last.val) :
      c.toNat < 128 :=
    Nat.lt_of_le_of_lt (UInt32.le_iff_toNat_le.mp bound) small
  rcases (Bool.or_eq_true _ _).mp plain with letter | digit
  · rcases (Bool.or_eq_true _ _).mp letter with upperCase | lowerCase
    · have bounds : 'A'.val ≤ c.val ∧ c.val ≤ 'Z'.val := of_decide_eq_true upperCase
      exact below (by decide) bounds.2
    · have bound : c.val ≤ 'z'.val := of_decide_eq_true ((Bool.and_eq_true _ _).mp lowerCase).2
      exact below (by decide) bound
  · have bound : c.val ≤ '9'.val := of_decide_eq_true ((Bool.and_eq_true _ _).mp digit).2
    exact below (by decide) bound

theorem forall_isAlphanum {p : Char → Prop}
    (small : ∀ n < 128, (Char.ofNat n).isAlphanum = true → p (Char.ofNat n)) {c : Char}
    (plain : c.isAlphanum = true) : p c := by
  have bound := toNat_lt_of_isAlphanum plain
  rw [← Char.ofNat_toNat c] at plain ⊢
  exact small c.toNat bound plain

theorem upper_of_isAlphanum {c : Char} (plain : c.isAlphanum = true) : upper c = [c.toUpper] :=
  forall_isAlphanum (p := fun c => upper c = [c.toUpper]) (by decide +kernel) plain

theorem isAlphanum_toUpper {c : Char} (plain : c.isAlphanum = true) :
    c.toUpper.isAlphanum = true :=
  forall_isAlphanum (p := fun c => c.toUpper.isAlphanum = true) (by decide +kernel) plain

theorem isSeparator_of_isAlphanum {c : Char} (plain : c.isAlphanum = true) :
    isSeparator c = false :=
  forall_isAlphanum (p := fun c => isSeparator c = false) (by decide +kernel) plain

theorem joinWords_append {c : Char} (separator : isSeparator c = true) (atStart : Bool)
    (s rest : List Char) :
    joinWords atStart (s ++ c :: rest) = joinWords atStart s ++ joinWords true rest := by
  induction s generalizing atStart with
  | nil => simp [joinWords, separator]
  | cons d s ih =>
      rw [List.cons_append, joinWords, joinWords, ih, ih]
      split
      · rfl
      · split
        · rw [List.append_assoc]
        · rw [List.cons_append]

theorem joinWords_inside {s : List Char} (plain : ∀ c ∈ s, isSeparator c = false) :
    joinWords false s = s := by
  induction s with
  | nil => rfl
  | cons c s ih =>
      rw [List.forall_mem_cons] at plain
      simp [joinWords, plain.1, ih plain.2]

theorem toList_capitalized (word : String) :
    (capitalized word).toList = word.toList.modifyHead Char.toUpper :=
  String.toList_ofList

theorem capitalized_chars {word : String} (plain : IsWord word) :
    ∀ c ∈ (capitalized word).toList, c.isAlphanum = true := by
  have chars := plain.chars
  rw [toList_capitalized]
  cases letters : word.toList with
  | nil => exact List.forall_mem_nil _
  | cons first rest =>
      rw [letters, List.forall_mem_cons] at chars
      rw [List.modifyHead_cons, List.forall_mem_cons]
      exact ⟨isAlphanum_toUpper chars.1, chars.2⟩

/-- A word at the start of a name is capitalized, and what follows it without a separator stays. -/
theorem pascal_append {word : String} (plain : IsWord word) {rest : List Char}
    (inside : ∀ c ∈ rest, isSeparator c = false) :
    pascal (word.toList ++ rest) = (capitalized word).toList ++ rest := by
  have chars := plain.chars
  have filled := plain.filled
  rw [toList_capitalized]
  cases letters : word.toList with
  | nil => exact absurd letters filled
  | cons first tail =>
      rw [letters, List.forall_mem_cons] at chars
      have kept : ∀ c ∈ tail ++ rest, isSeparator c = false :=
        List.forall_mem_append.mpr
          ⟨fun c member => isSeparator_of_isAlphanum (chars.2 c member), inside⟩
      rw [List.cons_append, pascal, joinWords, isSeparator_of_isAlphanum chars.1,
        upper_of_isAlphanum chars.1, joinWords_inside kept]
      rfl

theorem snakeCase_singleton (word : String) : snakeCase [word] = word :=
  String.intercalate_singleton

theorem snakeCase_cons_cons (word next : String) (words : List String) :
    snakeCase (word :: next :: words) = word ++ "_" ++ snakeCase (next :: words) :=
  String.intercalate_cons_cons

theorem pascal_snakeCase {words : List String} (plain : ∀ word ∈ words, IsWord word) :
    pascal (snakeCase words).toList = (pascalCase words).toList := by
  induction words with
  | nil => rfl
  | cons word words ih =>
      rw [List.forall_mem_cons] at plain
      have first : pascal (word.toList ++ []) = (capitalized word).toList ++ [] :=
        pascal_append plain.1 (List.forall_mem_nil _)
      rw [List.append_nil, List.append_nil] at first
      have whole : (pascalCase (word :: words)).toList =
          (capitalized word).toList ++ (pascalCase words).toList := by
        rw [pascalCase, List.map_cons, String.join_cons, String.toList_append, ← pascalCase]
      rw [whole, ← ih plain.2, ← first]
      cases words with
      | nil => rw [snakeCase_singleton]; exact (List.append_nil _).symm
      | cons next words =>
          have mark : "_".toList = ['_'] := rfl
          rw [snakeCase_cons_cons, String.toList_append, String.toList_append, mark,
            List.append_assoc, List.singleton_append]
          exact joinWords_append (by decide) true _ _

theorem snakeCase_chars {words : List String} (plain : ∀ word ∈ words, IsWord word) :
    ∀ c ∈ (snakeCase words).toList, c.isAlphanum = true ∨ c = '_' := by
  induction words with
  | nil => exact List.forall_mem_nil _
  | cons word words ih =>
      rw [List.forall_mem_cons] at plain
      have chars : ∀ c ∈ word.toList, c.isAlphanum = true ∨ c = '_' := fun c member =>
        .inl (plain.1.chars c member)
      cases words with
      | nil =>
          rw [snakeCase_singleton]
          exact chars
      | cons next words =>
          rw [snakeCase_cons_cons, String.toList_append, String.toList_append,
            List.forall_mem_append, List.forall_mem_append]
          exact ⟨⟨chars, List.forall_mem_singleton.mpr (.inr rfl)⟩, ih plain.2⟩

theorem snakeCase_ne_nil {words : List String} (named : words ≠ [])
    (plain : ∀ word ∈ words, IsWord word) : (snakeCase words).toList ≠ [] := by
  obtain ⟨word, words, rfl⟩ := List.exists_cons_of_ne_nil named
  have filled := (plain word List.mem_cons_self).filled
  cases words with
  | nil => rwa [snakeCase_singleton]
  | cons next words =>
      rw [snakeCase_cons_cons, String.toList_append, String.toList_append, List.append_assoc]
      exact List.append_ne_nil_of_left_ne_nil filled _

theorem pascalCase_chars {words : List String} (plain : ∀ word ∈ words, IsWord word) :
    ∀ c ∈ (pascalCase words).toList, c.isAlphanum = true := by
  intro c member
  rw [pascalCase, String.toList_join, List.mem_flatMap] at member
  obtain ⟨_, capital, inside⟩ := member
  obtain ⟨word, listed, rfl⟩ := List.mem_map.mp capital
  exact capitalized_chars (plain word listed) c inside

theorem pascal_camelCase {words : List String} (plain : ∀ word ∈ words, IsWord word) :
    pascal (camelCase words).toList = (pascalCase words).toList := by
  cases words with
  | nil => rfl
  | cons word words =>
      rw [List.forall_mem_cons] at plain
      have inside : ∀ c ∈ (pascalCase words).toList, isSeparator c = false := fun c member =>
        isSeparator_of_isAlphanum (pascalCase_chars plain.2 c member)
      rw [camelCase, String.toList_append, ← pascalCase, pascal_append plain.1 inside, pascalCase,
        pascalCase, List.map_cons, String.join_cons, String.toList_append]

theorem camelCase_chars {words : List String} (plain : ∀ word ∈ words, IsWord word) :
    ∀ c ∈ (camelCase words).toList, c.isAlphanum = true := by
  cases words with
  | nil => exact List.forall_mem_nil _
  | cons word words =>
      rw [List.forall_mem_cons] at plain
      rw [camelCase, String.toList_append, List.forall_mem_append]
      exact ⟨plain.1.chars, pascalCase_chars plain.2⟩

theorem fileName?_append {dir file : List Char} (ended : ∀ c ∈ dir.getLast?, c = '/')
    (noSlash : '/' ∉ file) (proper : file ∉ [[], ['.'], ['.', '.']]) :
    fileName? (dir ++ file) = some file := by
  simp only [List.mem_cons, List.not_mem_nil, or_false, not_or] at proper
  have alone : pieces (· == '/') file = [file] := by
    apply pieces_of_unmarked
    rintro c member
    rw [beq_eq_false_iff_ne]
    rintro rfl
    exact noSlash member
  have last : ∃ front, pieces (· == '/') (dir ++ file) = front ++ [file] := by
    cases edge : dir.getLast? with
    | none =>
        obtain rfl := List.getLast?_eq_none_iff.mp edge
        exact ⟨[], alone⟩
    | some c =>
        obtain ⟨front, rfl⟩ := List.getLast?_eq_some_iff.mp edge
        obtain rfl := ended c edge
        refine ⟨pieces (· == '/') front, ?_⟩
        rw [List.append_assoc, List.singleton_append, pieces_append (by decide), alone]
  obtain ⟨front, split⟩ := last
  simp only [fileName?, split, List.filter_append, List.getLast?_append]
  simp [proper]

theorem stem_append {name extension : List Char} (filled : name ≠ []) (noDot : '.' ∉ extension) :
    stem (name ++ '.' :: extension) = name := by
  rw [stem, cutLast?_append noDot]
  obtain ⟨c, rest, rfl⟩ := List.exists_cons_of_ne_nil filled
  rfl

theorem ofPath_snakeCase {words : List String} (named : words ≠ [])
    (plain : ∀ word ∈ words, IsWord word) {dir : String}
    (ended : ∀ c ∈ dir.toList.getLast?, c = '/') :
    ofPath (dir ++ snakeCase words ++ ".go") = pascalCase words := by
  have filled := snakeCase_ne_nil named plain
  have noSlash : '/' ∉ (snakeCase words).toList ++ ".go".toList := by
    rw [List.mem_append, not_or]
    refine ⟨fun member => ?_, by decide⟩
    exact absurd (snakeCase_chars plain _ member) (by decide)
  have proper : (snakeCase words).toList ++ ".go".toList ∉ [[], ['.'], ['.', '.']] := by
    have last : ((snakeCase words).toList ++ ".go".toList).getLast? = some 'o' := by simp
    intro other
    simp only [List.mem_cons, List.not_mem_nil, or_false] at other
    rcases other with same | same | same <;> rw [same] at last <;> contradiction
  have before : stem ((snakeCase words).toList ++ ".go".toList) = (snakeCase words).toList :=
    stem_append filled (by decide)
  rw [ofPath, String.toList_append, String.toList_append, List.append_assoc,
    fileName?_append ended noSlash proper, Option.map_some, Option.getD_some, before,
    pascal_snakeCase plain, String.ofList_toList]

theorem ofSchema_camelCase {words : List String} (plain : ∀ word ∈ words, IsWord word)
    {scope : String} (ended : ∀ c ∈ scope.toList.getLast?, c = '.') :
    ofSchema (scope ++ camelCase words) = pascalCase words := by
  have noDot : '.' ∉ (camelCase words).toList := fun member =>
    absurd (camelCase_chars plain _ member) (by decide)
  rw [ofSchema, String.toList_append, snd_cutLast?_append ended noDot, pascal_camelCase plain,
    String.ofList_toList]

end ModelName

open ModelName

/-- Both spellings of a name give the same model, and an index that names no files asks for it by
    its model alone, be it looked for as a file or as a schema. -/
theorem model_of_file_and_schema {words : List String} (named : words ≠ [])
    (plain : ∀ word ∈ words, IsWord word) {dir : String}
    (dirEnded : ∀ c ∈ dir.toList.getLast?, c = '/') {scope : String}
    (scopeEnded : ∀ c ∈ scope.toList.getLast?, c = '.') :
    let path := dir ++ snakeCase words ++ ".go"
    let schema := scope ++ camelCase words
    ofPath path = ofSchema schema ∧ ofPath path = pascalCase words ∧
      ∀ usage : Usage, usage.files = [] →
        usage.usesModel (ofPath path) path = usage.usesSchema schema ∧
          usage.relevant (ofPath path) path = usage.relevantSchema schema ∧
          (usage.usesSchema schema = true ↔ pascalCase words ∈ usage.models) := by
  intro path schema
  have file : ofPath path = pascalCase words := ofPath_snakeCase named plain dirEnded
  have described : ofSchema schema = pascalCase words := ofSchema_camelCase plain scopeEnded
  refine ⟨file.trans described.symm, file, ?_⟩
  intro usage noFiles
  have uses : usage.usesModel (ofPath path) path = usage.usesSchema schema := by
    rw [Usage.usesModel, Usage.usesSchema, file, described, noFiles, List.contains_nil,
      Bool.or_false]
  refine ⟨uses, ?_, ?_⟩
  · rw [Usage.relevant, Usage.relevantSchema, uses]
  · rw [Usage.usesSchema, described, List.contains_iff_mem]

theorem model_of_file_and_schema_of_two_words :
    let words := ["x", "2faMethod", "v1"]
    let path := "pkg/v1.0/models/x_2faMethod_v1.go"
    let schema := "microsoft.graph.x2faMethodV1"
    let usage : Usage := { models := ["X2faMethodV1"], packages := ["models"] }
    (words ≠ [] ∧ ∀ word ∈ words, IsWord word) ∧
      path = "pkg/v1.0/models/" ++ snakeCase words ++ ".go" ∧
      schema = "microsoft.graph." ++ camelCase words ∧
      ofPath path = ofSchema schema ∧ usage.usesModel (ofPath path) path = true ∧
      usage.usesSchema schema = true := by
  intro words path schema usage
  have named : words ≠ [] := List.cons_ne_nil _ _
  have plain : ∀ word ∈ words, IsWord word := by decide
  have dirEnded : ∀ c ∈ "pkg/v1.0/models/".toList.getLast?, c = '/' := by simp
  have scopeEnded : ∀ c ∈ "microsoft.graph.".toList.getLast?, c = '.' := by simp
  have path_eq : path = "pkg/v1.0/models/" ++ snakeCase words ++ ".go" := by decide +kernel
  have schema_eq : schema = "microsoft.graph." ++ camelCase words := by decide +kernel
  have model := model_of_file_and_schema named plain dirEnded scopeEnded
  dsimp only at model
  rw [← path_eq, ← schema_eq] at model
  obtain ⟨same, _, indexed⟩ := model
  obtain ⟨uses, _, entry⟩ := indexed usage rfl
  have used : usage.usesSchema schema = true := entry.mpr (by decide)
  exact ⟨⟨named, plain⟩, path_eq, schema_eq, same, uses.trans used, used⟩

end ReleaseDrift
