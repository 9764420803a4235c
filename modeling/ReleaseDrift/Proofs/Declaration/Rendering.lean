import ReleaseDrift.Proofs.Declaration.Reading
import ReleaseDrift.Proofs.Declaration.Recognition

/-!
Declarations as they are written on a line. A written declaration passes every exclusion, no
recogniser of another form takes it, and its own gives it back.
-/

namespace ReleaseDrift

open Text

namespace Declaration

structure IsSignaturePart (s : List Char) : Prop where
  chars : ∀ c ∈ s, isSignatureChar c
  trimmed : IsTrimmed s

instance (s : List Char) : Decidable (IsSignaturePart s) :=
  decidable_of_iff (s.all isSignatureChar ∧ IsTrimmed s)
    ⟨fun part => ⟨List.all_eq_true.mp part.1, part.2⟩,
      fun part => ⟨List.all_eq_true.mpr part.chars, part.trimmed⟩⟩

end Declaration

open Declaration

structure FieldChange.IsPlain (field : FieldChange) : Prop where
  name : IsExportedName field.name.toList
  filled : field.type.toList ≠ []
  type : ∀ c ∈ field.type.toList, isFieldTypeChar c

structure MethodChange.IsPlain (method : MethodChange) : Prop where
  name : IsExportedName method.name.toList
  parameters : IsSignaturePart method.parameters.toList
  balanced : IsBalanced method.parameters.toList
  returns : IsSignaturePart method.returns.toList

/-- What a line of a block can declare. -/
def Change.FitsIn (block : Block) : Change → Prop
  | field change => block = .struct ∧ change.IsPlain
  | method change => block = .interface ∧ change.IsPlain
  | embedded change => block = change.block ∧ IsExportedName (withoutPointer change.type.toList)

def Change.text : Change → String
  | field change => change.name ++ " " ++ change.type
  | method change => change.signature
  | embedded change => change.type

namespace Declaration

structure IsWritten (line : List Char) : Prop where
  opening : Opening line
  chars : ∀ c ∈ line, isSignatureChar c
  endsPlain : EndsPlain line

theorem IsWritten.isTrimmed {line : List Char} (written : IsWritten line) : IsTrimmed line :=
  ⟨written.opening.startsPlain, written.endsPlain⟩

theorem isWritten_type {type : List Char} (exported : IsExportedName (withoutPointer type)) :
    IsWritten type := by
  unfold withoutPointer at exported
  split at exported
  · rename_i name
    refine ⟨.pointer exported, ?_, ?_⟩
    · rw [List.forall_mem_cons]
      exact ⟨by decide, fun c member => isSignatureChar_of_isWord (exported.isName.words c member)⟩
    · exact exported.isName.endsPlain.append_left exported.isName.ne_nil ['*']
  · have whole : Opening (type ++ []) := .named exported (by simp) (by simp)
    rw [List.append_nil] at whole
    exact ⟨whole, fun c member => isSignatureChar_of_isWord (exported.isName.words c member),
      exported.isName.endsPlain⟩

end Declaration

theorem FieldChange.toList_text (field : FieldChange) :
    (Change.field field).text.toList = field.name.toList ++ ' ' :: field.type.toList := by
  simp [Change.text]

theorem FieldChange.IsPlain.isWritten {field : FieldChange} (plain : field.IsPlain) :
    IsWritten (field.name.toList ++ ' ' :: field.type.toList) where
  opening := .named plain.name (by simp; decide) (by simp)
  chars := by
    rw [List.forall_mem_append, List.forall_mem_cons]
    exact ⟨fun c member => isSignatureChar_of_isWord (plain.name.isName.words c member), by decide,
      fun c member => isSignatureChar_of_isFieldTypeChar (plain.type c member)⟩
  endsPlain := by
    have ends : EndsPlain field.type.toList := fun c last =>
      isBlank_eq_false_of_isFieldTypeChar (plain.type c (List.mem_of_getLast? last))
    rw [List.append_cons]
    exact ends.append_left plain.filled _

def MethodChange.tail (method : MethodChange) : List Char :=
  if method.returns.toList = [] then [] else ' ' :: method.returns.toList

theorem MethodChange.toList_signature (method : MethodChange) :
    method.signature.toList =
      method.name.toList ++ '(' :: (method.parameters.toList ++ ')' :: method.tail) := by
  rw [signature, tail]
  by_cases nothing : method.returns = ""
  · simp [nothing]
  · simp [nothing]

theorem MethodChange.trim_tail {method : MethodChange}
    (trimmed : IsTrimmed method.returns.toList) : trim method.tail = method.returns.toList := by
  rw [tail]
  split
  · rename_i nothing
    rw [nothing]
    rfl
  · have blank : ∀ c ∈ [' '], isBlank c = true := List.forall_mem_singleton.mpr rfl
    exact trim_append_of_isTrimmed blank trimmed

namespace MethodChange.IsPlain

variable {method : MethodChange}

theorem tail_chars (plain : method.IsPlain) : ∀ c ∈ method.tail, isSignatureChar c := by
  rw [tail]
  split
  · simp
  · rw [List.forall_mem_cons]
    exact ⟨by decide, plain.returns.chars⟩

theorem endsPlain_tail (plain : method.IsPlain) : EndsPlain (')' :: method.tail) := by
  rw [tail]
  split
  · decide
  · rename_i filled
    exact plain.returns.trimmed.endsPlain.append_left filled [')', ' ']

theorem isWritten (plain : method.IsPlain) :
    IsWritten (method.name.toList ++ '(' :: (method.parameters.toList ++ ')' :: method.tail)) where
  opening := .named plain.name (by simp; decide) (by simp)
  chars := by
    rw [List.forall_mem_append, List.forall_mem_cons, List.forall_mem_append, List.forall_mem_cons]
    exact ⟨fun c member => isSignatureChar_of_isWord (plain.name.isName.words c member), by decide,
      plain.parameters.chars, by decide, plain.tail_chars⟩
  endsPlain := by
    rw [List.append_cons, ← List.append_assoc]
    exact plain.endsPlain_tail.append_left (List.cons_ne_nil _ _) _

end MethodChange.IsPlain

theorem Change.FitsIn.isWritten {change : Change} {block : Block} (fits : change.FitsIn block) :
    IsWritten change.text.toList := by
  cases change with
  | field change =>
      rw [change.toList_text]
      exact fits.2.isWritten
  | method change =>
      rw [text, change.toList_signature]
      exact fits.2.isWritten
  | embedded change => exact isWritten_type fits.2

namespace Declaration

theorem embedded?_field {field : FieldChange} (plain : field.IsPlain) :
    embedded? (field.name.toList ++ ' ' :: field.type.toList) = none := by
  have noSlash : '/' ∉ ' ' :: field.type.toList := fun member =>
    notMem_of_isSignatureChar plain.isWritten.chars (by decide)
      (List.mem_append_right _ member)
  obtain ⟨c, member⟩ := List.exists_mem_of_ne_nil _ plain.filled
  have shown : ∃ c ∈ ' ' :: field.type.toList, isBlank c = false :=
    ⟨c, List.mem_cons_of_mem _ member, isBlank_eq_false_of_isFieldTypeChar (plain.type c member)⟩
  rw [embedded?_append plain.name (by simp; decide) (by simp), isTrailer_eq_false noSlash shown]
  rfl

theorem embedded?_method {method : MethodChange} (plain : method.IsPlain) :
    embedded? (method.name.toList ++ '(' :: (method.parameters.toList ++ ')' :: method.tail)) =
      none := by
  have noSlash : '/' ∉ '(' :: (method.parameters.toList ++ ')' :: method.tail) := fun member =>
    notMem_of_isSignatureChar plain.isWritten.chars (by decide)
      (List.mem_append_right _ member)
  have shown : ∃ c ∈ '(' :: (method.parameters.toList ++ ')' :: method.tail), isBlank c = false :=
    ⟨'(', List.mem_cons_self, by decide⟩
  rw [embedded?_append plain.name (by simp; decide) (by simp), isTrailer_eq_false noSlash shown]
  rfl

theorem IsWritten.ne_nil {line : List Char} (written : IsWritten line) : line ≠ [] := by
  obtain ⟨c, member, _⟩ := written.opening.exists_mem_isWord
  exact List.ne_nil_of_mem member

/-- Reading undoes writing. -/
theorem read_text {change : Change} {block : Block} (fits : change.FitsIn block) (number : Nat) :
    read change.text.toList change.direction block number =
      .change (change.relabel change.direction number) := by
  have written := fits.isWritten
  have kept := exclusion?_eq_none written.opening written.chars
  have filled := beq_false_of_ne written.ne_nil
  cases change with
  | field field =>
      obtain ⟨rfl, plain⟩ := fits
      have parts := field?_append plain.name plain.filled plain.type
      rw [field.toList_text] at kept filled ⊢
      simp only [read, filled, kept, embedded?_field plain, parts,
        isExported_of_isExportedName plain.name, String.ofList_toList]
      rfl
  | method method =>
      obtain ⟨rfl, plain⟩ := fits
      have noSlash : '/' ∉ method.tail := notMem_of_isSignatureChar plain.tail_chars (by decide)
      have parts := method?_append method.tail plain.name.isName plain.balanced
      have parameters := trim_of_isTrimmed plain.parameters.trimmed
      rw [beforeComment_of_noSlash noSlash, MethodChange.trim_tail plain.returns.trimmed,
        parameters] at parts
      rw [Change.text, method.toList_signature] at kept filled ⊢
      simp only [read, filled, kept, embedded?_method plain, parts,
        isExported_of_isExportedName plain.name, String.ofList_toList]
      rfl
  | embedded type =>
      obtain ⟨rfl, exported⟩ := fits
      rw [Change.text] at kept filled ⊢
      simp only [read, filled, kept, embedded?_type exported, String.ofList_toList]
      rfl

end Declaration

end ReleaseDrift
