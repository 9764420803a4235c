import Mathlib.Data.List.DropRight
import ReleaseDrift.Impact.FileRules
import ReleaseDrift.Proofs.Glob.Language

/-!
The pattern of a directory: its name, a slash and two stars. When no character of the name is
special, the pattern stands for the paths that go on after the name with a slash.
-/

namespace ReleaseDrift

namespace Glob

theorem utf8EncodeChar_append_inj {c d : Char} {s t : List UInt8}
    (same : String.utf8EncodeChar c ++ s = String.utf8EncodeChar d ++ t) : c = d ∧ s = t := by
  have decoded (c : Char) (s : List UInt8) :
      (String.utf8EncodeChar c ++ s).toByteArray.utf8DecodeChar? 0 = some c := by
    rw [List.toByteArray_append]
    exact ByteArray.utf8DecodeChar?_utf8EncodeChar_append
  have first : c = d := by
    rw [← Option.some_inj, ← decoded c s, same, decoded]
  subst first
  exact ⟨rfl, List.append_cancel_left same⟩

theorem bytes_append (s t : List Char) : bytes (s ++ t) = bytes s ++ bytes t :=
  List.flatMap_append

theorem bytes_prefix_iff (s t : List Char) : bytes s <+: bytes t ↔ s <+: t := by
  constructor
  · intro before
    induction s generalizing t with
    | nil => exact List.nil_prefix
    | cons c s ih =>
        obtain ⟨rest, joined⟩ := before
        rw [bytes, List.flatMap_cons, List.append_assoc] at joined
        cases t with
        | nil =>
            exact absurd (List.append_eq_nil_iff.mp joined).1 String.utf8EncodeChar_ne_nil
        | cons d t =>
            obtain ⟨rfl, tails⟩ := utf8EncodeChar_append_inj joined
            exact List.cons_prefix_cons.mpr ⟨rfl, ih t ⟨rest, tails⟩⟩
  · rintro ⟨rest, rfl⟩
    exact ⟨bytes rest, (bytes_append s rest).symm⟩

/-- A character that stands for itself outside of braces. -/
def IsPlain (c : Char) : Prop :=
  c ≠ '?' ∧ c ≠ '*' ∧ c ≠ '[' ∧ c ≠ '\x7b' ∧ c ≠ '\x7d' ∧ c ≠ '\\'

instance (c : Char) : Decidable (IsPlain c) := inferInstanceAs (Decidable (_ ∧ _))

theorem parse?_plain {c : Char} (plain : IsPlain c) (fuel : Nat) (current : List Token)
    (previous : Option Char) (rest : List Char) :
    parse? (fuel + 1) ⟨current, []⟩ previous (c :: rest) =
      parse? fuel ⟨.literal c :: current, []⟩ (some c) rest := by
  obtain ⟨notAny, notMany, notRange, notOpen, notClose, notEscape⟩ := plain
  by_cases comma : c = ','
  · -- A comma is read apart, since it would split a group; none is open here.
    subst comma
    rfl
  · rw [parse?]
    · rfl
    all_goals intros; contradiction

theorem parse?_plain_append {name : List Char} (plain : ∀ c ∈ name, IsPlain c) (fuel : Nat)
    (current : List Token) (previous : Option Char) (rest : List Char) :
    parse? (name.length + fuel) ⟨current, []⟩ previous (name ++ rest) =
      parse? fuel ⟨(name.map .literal).reverse ++ current, []⟩ (name.getLast?.or previous)
        rest := by
  induction name generalizing current previous with
  | nil => simp
  | cons c name ih =>
      obtain ⟨here, later⟩ := List.forall_mem_cons.mp plain
      have last : name.getLast?.or (some c) = (c :: name).getLast?.or previous := by
        rw [List.getLast?_cons, Option.or_some, Option.some_or]
      rw [List.length_cons, Nat.succ_add, List.cons_append, parse?_plain here, ih later, last,
        List.map_cons, List.reverse_cons, List.append_assoc, List.singleton_append]

def dirTokens (name : List Char) : List Token := name.map .literal ++ [.trailingDirs]

theorem tokens?_dir {name : List Char} (plain : ∀ c ∈ name, IsPlain c) :
    tokens? (name ++ "/**".toList) = some (dirTokens name) := by
  have slashed : ∀ c ∈ name ++ ['/'], IsPlain c :=
    List.forall_mem_append.mpr ⟨plain, List.forall_mem_singleton.mpr (by decide)⟩
  have parts : name ++ "/**".toList = (name ++ ['/']) ++ ['*', '*'] := by simp
  have fuel : (name ++ "/**".toList).length + 1 = (name ++ ['/']).length + 3 := by simp
  rw [tokens?, fuel, parts, parse?_plain_append slashed]
  -- The stars come after a slash and take its place.
  simp [parse?, Partial.stars, dirTokens]

theorem mem_language_dirTokens (name : List Char) (path : List UInt8) :
    path ∈ language (dirTokens name) ↔ bytes name ++ [slash] <+: path := by
  rw [dirTokens, language_append, language_literals, language, language, joined_nil, Token.language,
    oneByte_beq, ← joined_assoc, singleton_joined_singleton, mem_joined_univ]
  exact exists_eq_left

theorem byLastComponent_eq_false {tokens : List Token}
    (ending : tokens.getLast?.any (·.isDot) = false) : byLastComponent tokens = false := by
  unfold byLastComponent
  rw [ending]
  rfl

theorem matchTokens_dirTokens (name path : List Char) :
    matchTokens (dirTokens name) (bytes path) = true ↔ name ++ ['/'] <+: path := by
  have ending : (dirTokens name).getLast? = some .trailingDirs := List.getLast?_concat
  have different : dirTokens name ≠ [.leadingDirs] := by
    intro same
    rw [same] at ending
    cases ending
  have byPath := byLastComponent_eq_false (congrArg (Option.any (·.isDot)) ending)
  have slashed : bytes name ++ [slash] = bytes (name ++ ['/']) := (bytes_append name ['/']).symm
  rw [matchTokens_iff, mem_language_dirTokens, slashed, bytes_prefix_iff]
  simp [different, byPath]

theorem isTooDeep_dirTokens (name : List Char) : isTooDeep (dirTokens name) = false := by
  have depth : tokenDepth (dirTokens name) = 1 := by
    induction name with
    | nil => rfl
    | cons c name ih =>
        rw [dirTokens] at ih ⊢
        rw [List.map_cons, List.cons_append, tokenDepth, ih]
        rfl
  rw [isTooDeep, depth]
  rfl

/-- No pattern of the set is nested so deep that it spoils the set. -/
def Sound (patterns : List String) : Prop := ∀ tokens ∈ readable patterns, isTooDeep tokens = false

instance (patterns : List String) : Decidable (Sound patterns) :=
  inferInstanceAs (Decidable (∀ _ ∈ _, _))

theorem matchesAny_iff (patterns : List String) (path : String) :
    matchesAny patterns path = true ↔ Sound patterns ∧
      ∃ tokens ∈ readable patterns, matchTokens tokens (bytes path.toList) = true := by
  simp [matchesAny, Sound]

theorem matchesAny_append_iff (patterns more : List String) (path : String) :
    matchesAny (patterns ++ more) path = true ↔
      (matchesAny patterns path = true ∧ Sound more) ∨
        (Sound patterns ∧ matchesAny more path = true) := by
  have sound : Sound (patterns ++ more) ↔ Sound patterns ∧ Sound more := by
    rw [Sound, readable, List.filterMap_append]
    exact List.forall_mem_append
  simp only [matchesAny_iff, sound, readable, List.filterMap_append, List.mem_append, or_and_right,
    exists_or]
  constructor
  · rintro ⟨⟨first, second⟩, found | found⟩
    · exact .inl ⟨⟨first, found⟩, second⟩
    · exact .inr ⟨first, second, found⟩
  · rintro (⟨⟨first, found⟩, second⟩ | ⟨first, second, found⟩)
    · exact ⟨⟨first, second⟩, .inl found⟩
    · exact ⟨⟨first, second⟩, .inr found⟩

end Glob

def dirName (dir : String) : List Char := dir.toList.rdropWhile (· == '/')

theorem readable_dirPattern {dir : String} (plain : ∀ c ∈ dir.toList, Glob.IsPlain c) :
    Glob.readable (dirPattern dir) =
      if dirName dir = [] then [] else [Glob.dirTokens (dirName dir)] := by
  have named : ∀ c ∈ dirName dir, Glob.IsPlain c := fun c member =>
    plain c ((List.rdropWhile_prefix _ _).subset member)
  have pattern : dirPattern dir =
      if dirName dir = [] then [] else [String.ofList (dirName dir ++ "/**".toList)] := rfl
  rw [pattern]
  split
  · rfl
  · rw [Glob.readable, List.filterMap_cons, String.toList_ofList, Glob.tokens?_dir named]
    rfl

theorem sound_dirPattern {dir : String} (plain : ∀ c ∈ dir.toList, Glob.IsPlain c) :
    Glob.Sound (dirPattern dir) := by
  rw [Glob.Sound, readable_dirPattern plain]
  split
  · exact List.forall_mem_nil _
  · exact List.forall_mem_singleton.mpr (Glob.isTooDeep_dirTokens _)

theorem matchesAny_dirPattern_iff {dir : String} (plain : ∀ c ∈ dir.toList, Glob.IsPlain c)
    (path : String) :
    Glob.matchesAny (dirPattern dir) path = true ↔
      dirName dir ≠ [] ∧ dirName dir ++ ['/'] <+: path.toList := by
  rw [Glob.matchesAny_iff, and_iff_right (sound_dirPattern plain), readable_dirPattern plain]
  split
  · next unnamed => simp [unnamed]
  · next named => simp [named, Glob.matchTokens_dirTokens]

end ReleaseDrift
