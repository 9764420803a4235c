import Mathlib.Data.List.Basic
import ReleaseDrift.Proofs.ModelName
import ReleaseDrift.Proofs.Text.UpperCase
import ReleaseDrift.Proofs.Text.WordChar

/-!
The casing of a name: it joins the words around a separator, leaves no separator, and leaves alone
what it gives. A model name is therefore its own, be it read as a name or as a schema; read as the
path of a file it is cut at its slashes.
-/

namespace ReleaseDrift.ModelName

open Text

def markCodes : List Nat :=
  [0x2D, 0x2E, 0x2F, 0x5F] ++ List.range' 9 5 ++ [0x20, 0x85, 0xA0, 0x1680] ++
    List.range' 0x2000 11 ++ [0x2028, 0x2029, 0x202F, 0x205F, 0x3000]

theorem toNat_mem_markCodes {c : Char} (mark : isSeparator c = true ∨ c = '/') :
    c.toNat ∈ markCodes := by
  simp only [isSeparator, Bool.or_eq_true, beq_iff_eq, isBlank_iff] at mark
  simp only [markCodes, List.mem_append, List.mem_cons, List.not_mem_nil, or_false,
    List.mem_range'_1]
  rcases mark with (((rfl | rfl) | rfl) | blank) | rfl
  · decide
  · decide
  · decide
  · omega
  · decide

theorem raisedCodes_apart_from_marks : bitSet raisedCodes.flatten &&& bitSet markCodes = 0 := by
  decide +kernel

/-- An upper case holds no separator and no slash, unless it is one that was there before. -/
theorem eq_of_mem_upper {c d : Char} (member : d ∈ upper c)
    (mark : isSeparator d = true ∨ d = '/') : d = c :=
  (mem_upper member).resolve_right fun raised =>
    notMem_of_bitSet_apart raisedCodes_apart_from_marks raised (toNat_mem_markCodes mark)

theorem exists_of_mem_joinWords {atStart : Bool} {s : List Char} {d : Char}
    (member : d ∈ joinWords atStart s) :
    ∃ c ∈ s, isSeparator c = false ∧ (d = c ∨ d ∈ upper c) := by
  fun_induction joinWords atStart s with
  | case1 => cases member
  | case2 _ c rest _ ih =>
      obtain ⟨source, inside, origin⟩ := ih member
      exact ⟨source, List.mem_cons_of_mem c inside, origin⟩
  | case3 c rest plain ih =>
      rcases List.mem_append.mp member with raised | later
      · exact ⟨c, List.mem_cons_self, Bool.eq_false_iff.mpr plain, Or.inr raised⟩
      · obtain ⟨source, inside, origin⟩ := ih later
        exact ⟨source, List.mem_cons_of_mem c inside, origin⟩
  | case4 _ c rest plain _ ih =>
      rcases List.mem_cons.mp member with rfl | later
      · exact ⟨d, List.mem_cons_self, Bool.eq_false_iff.mpr plain, Or.inl rfl⟩
      · obtain ⟨source, inside, origin⟩ := ih later
        exact ⟨source, List.mem_cons_of_mem c inside, origin⟩

theorem mem_of_mark_mem_pascal {s : List Char} {d : Char} (member : d ∈ pascal s)
    (mark : isSeparator d = true ∨ d = '/') : d ∈ s ∧ isSeparator d = false := by
  obtain ⟨c, inside, plain, origin⟩ := exists_of_mem_joinWords member
  obtain rfl : d = c := origin.elim id fun raised => eq_of_mem_upper raised mark
  exact ⟨inside, plain⟩

/-- A name that casing leaves alone: no separator, and a first character in upper case. -/
structure IsCased (name : List Char) : Prop where
  noSeparator : ∀ c ∈ name, isSeparator c = false
  capital : ∀ c ∈ name.head?, upper c = [c]

theorem upper_of_mem_head?_pascal {s : List Char} {c : Char} (first : c ∈ (pascal s).head?) :
    upper c = [c] := by
  induction s with
  | nil => cases first
  | cons d rest ih =>
      rw [pascal, joinWords] at first
      split at first
      · exact ih first
      · rw [if_pos rfl, List.head?_append_of_ne_nil _ (upper_ne_nil d)] at first
        exact upper_of_mem_head? first

theorem isCased_pascal (s : List Char) : IsCased (pascal s) where
  noSeparator := by
    intro c member
    rw [Bool.eq_false_iff]
    intro separator
    have plain := (mem_of_mark_mem_pascal member (Or.inl separator)).2
    rw [separator] at plain
    contradiction
  capital := fun _ => upper_of_mem_head?_pascal

theorem pascal_eq_self_iff {name : List Char} : pascal name = name ↔ IsCased name := by
  constructor
  · intro same
    rw [← same]
    exact isCased_pascal name
  · intro cased
    cases name with
    | nil => rfl
    | cons c rest =>
        have chars := List.forall_mem_cons.mp cased.noSeparator
        rw [pascal, joinWords, chars.1, if_neg Bool.false_ne_true, if_pos rfl,
          cased.capital c rfl, joinWords_inside chars.2]
        rfl

theorem pascal_pascal (s : List Char) : pascal (pascal s) = pascal s :=
  pascal_eq_self_iff.mpr (isCased_pascal s)

theorem IsCased.noDot {name : List Char} (cased : IsCased name) : '.' ∉ name := fun member =>
  absurd (cased.noSeparator '.' member) (by decide)

theorem stem_of_noDot {file : List Char} (noDot : '.' ∉ file) : stem file = file := by
  rw [stem, cutLast?_eq_none_of_notMem List.mem_cons_self noDot]

theorem fileName?_of_noDot {path : List Char} (noDot : '.' ∉ path) :
    (fileName? path = none ∧ ∀ c ∈ path, c = '/') ∨
      ∃ file, fileName? path = some file ∧ file ≠ [] ∧ ∀ c ∈ file, c ∈ path ∧ c ≠ '/' := by
  have chars (c : Char) : (∃ piece ∈ pieces (· == '/') path, c ∈ piece) ↔ c ∈ path ∧ c ≠ '/' := by
    rw [← List.mem_flatten, flatten_pieces, List.mem_filter, Bool.not_eq_true', beq_eq_false_iff_ne]
  -- The components that `fileName?` treats apart all hold a dot.
  have noDots : ∀ piece ∈ pieces (· == '/') path, piece ≠ ['.'] ∧ piece ≠ ['.', '.'] := by
    intro piece listed
    constructor <;> rintro rfl <;>
      exact noDot ((chars '.').mp ⟨_, listed, List.mem_cons_self⟩).1
  cases last : ((pieces (· == '/') path).filter fun part =>
      part != [] && part != ['.']).getLast? with
  | none =>
      refine Or.inl ⟨by simp only [fileName?, last], ?_⟩
      rw [List.getLast?_eq_none_iff, List.filter_eq_nil_iff] at last
      intro c member
      by_contra other
      obtain ⟨piece, listed, inside⟩ := (chars c).mpr ⟨member, other⟩
      exact last piece listed (by simp [List.ne_nil_of_mem inside, (noDots piece listed).1])
  | some file =>
      have member := List.mem_of_getLast? last
      rw [List.mem_filter, Bool.and_eq_true, bne_iff_ne, bne_iff_ne] at member
      obtain ⟨listed, filled, _⟩ := member
      refine Or.inr ⟨file, ?_, filled, fun c inside => (chars c).mp ⟨file, listed, inside⟩⟩
      simp only [fileName?, last, if_neg (noDots file listed).2]

theorem fileName?_of_noSlash {name : List Char} (filled : name ≠ []) (noDot : '.' ∉ name)
    (noSlash : '/' ∉ name) : fileName? name = some name := by
  have proper : name ∉ [[], ['.'], ['.', '.']] := by
    simp only [List.mem_cons, List.not_mem_nil, or_false, not_or]
    exact ⟨filled, fun same => noDot (by simp [same]), fun same => noDot (by simp [same])⟩
  have ended : ∀ c ∈ ([] : List Char).getLast?, c = '/' := by simp
  exact fileName?_append ended noSlash proper

theorem ofSchema_of_isCased {name : String} (cased : IsCased name.toList) :
    ofSchema name = name := by
  rw [ofSchema, cutLast?_eq_none_of_notMem List.mem_cons_self cased.noDot, Option.map_none,
    Option.getD_none, pascal_eq_self_iff.mpr cased, String.ofList_toList]

/-- The path of a file is named by its last component, so a slash beside other characters is lost. -/
theorem ofPath_eq_self_iff {name : String} (cased : IsCased name.toList) :
    ofPath name = name ↔ '/' ∉ name.toList ∨ ∀ c ∈ name.toList, c = '/' := by
  rcases fileName?_of_noDot cased.noDot with ⟨noFile, slashes⟩ | ⟨file, named, filled, chars⟩
  · rw [ofPath, noFile, Option.map_none, Option.getD_none, pascal_eq_self_iff.mpr cased,
      String.ofList_toList]
    exact iff_of_true rfl (Or.inr slashes)
  · have fileNoDot : '.' ∉ file := fun member => cased.noDot (chars '.' member).1
    obtain ⟨c, member⟩ := List.exists_mem_of_ne_nil file filled
    obtain ⟨inside, other⟩ := chars c member
    rw [ofPath, named, Option.map_some, Option.getD_some, stem_of_noDot fileNoDot]
    constructor
    · -- The file holds no slash, and its casing brings none in.
      intro same
      refine Or.inl fun slash => ?_
      rw [← same, String.toList_ofList] at slash
      have kept := (mem_of_mark_mem_pascal slash (Or.inr rfl)).1
      exact (chars '/' kept).2 rfl
    · rintro (noSlash | slashes)
      · have whole := fileName?_of_noSlash (List.ne_nil_of_mem inside) cased.noDot noSlash
        rw [named, Option.some_inj] at whole
        rw [whole, pascal_eq_self_iff.mpr cased, String.ofList_toList]
      · exact absurd (slashes c inside) other

structure IsModelName (name : String) : Prop where
  noSeparator : ∀ c ∈ name.toList, isSeparator c = false
  ofName_eq : ofName name = name
  ofSchema_eq : ofSchema name = name
  ofPath_eq_iff : ofPath name = name ↔ '/' ∉ name.toList ∨ ∀ c ∈ name.toList, c = '/'

theorem isModelName_ofList_pascal (s : List Char) : IsModelName (String.ofList (pascal s)) := by
  have cased : IsCased (String.ofList (pascal s)).toList := by
    rw [String.toList_ofList]
    exact isCased_pascal s
  exact
    { noSeparator := cased.noSeparator
      ofName_eq := by rw [ofName, String.toList_ofList, pascal_pascal]
      ofSchema_eq := ofSchema_of_isCased cased
      ofPath_eq_iff := ofPath_eq_self_iff cased }

/-- A separator between two names joins what they give, and every model name, whatever it was made
    from, is left as it is. -/
theorem ofName_laws (left right : String) {c : Char} (separator : isSeparator c = true) :
    ofName (left ++ String.singleton c ++ right) = ofName left ++ ofName right ∧
      (∀ name, IsModelName (ofName name)) ∧ (∀ path, IsModelName (ofPath path)) ∧
      ∀ schemaName, IsModelName (ofSchema schemaName) := by
  refine ⟨?_, fun _ => isModelName_ofList_pascal _, fun _ => isModelName_ofList_pascal _,
    fun _ => isModelName_ofList_pascal _⟩
  rw [ofName, String.toList_append, String.toList_append, String.toList_singleton,
    List.append_assoc, List.singleton_append, pascal, joinWords_append separator,
    String.ofList_append]
  rfl

theorem ofName_laws_of_blank :
    isSeparator '\u2003' = true ∧ ofName "_ﬁle-\u2003.ßen_ǆ" = "FIleSSenǄ" ∧
      ofName "FIleSSenǄ" = "FIleSSenǄ" := by
  have separator : isSeparator '\u2003' = true := by decide
  have left : ofName "_ﬁle-" = "FIle" := by decide +kernel
  have right : ofName ".ßen_ǆ" = "SSenǄ" := by decide +kernel
  obtain ⟨joined, modelName, _⟩ := ofName_laws "_ﬁle-" ".ßen_ǆ" separator
  rw [left, right] at joined
  have whole : ofName "_ﬁle-\u2003.ßen_ǆ" = "FIleSSenǄ" := joined
  have kept := (modelName "_ﬁle-\u2003.ßen_ǆ").ofName_eq
  rw [whole] at kept
  exact ⟨separator, whole, kept⟩

theorem ofPath_ofSchema_of_slash : ofPath (ofSchema "a/b") ≠ ofSchema "a/b" := by
  have model : ofSchema "a/b" = "A/b" := by decide +kernel
  have file : ofPath "A/b" = "B" := by decide +kernel
  rw [model, file]
  decide

end ReleaseDrift.ModelName
