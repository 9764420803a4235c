import Mathlib.Data.List.DropRight
import Mathlib.Data.List.Forall2
import ReleaseDrift.Proofs.Json.Fields
import ReleaseDrift.Proofs.Json.Scalar

/-!
JSON documents and back. A document that is written with one item to a line is read as the value
that was written, provided that all its numbers are whole and fit 64 bits.
-/

namespace ReleaseDrift.Json.Written

open Text

def IsSpace (s : List Char) : Prop :=
  ∀ c ∈ s, (c == ' ' || c == '\n' || c == '\t' || c == '\r') = true

theorem isSpace_feed : IsSpace ['\n'] := by
  rw [IsSpace, List.forall_mem_singleton]
  rfl

theorem isSpace_indentation (level : Nat) : IsSpace (indentation level).toList := by
  intro c member
  rw [indentation, String.toList_ofList] at member
  rw [List.eq_of_mem_replicate member]
  rfl

theorem IsSpace.append {left right : List Char} (leftSpace : IsSpace left)
    (rightSpace : IsSpace right) : IsSpace (left ++ right) :=
  List.forall_mem_append.mpr ⟨leftSpace, rightSpace⟩

theorem skipSpace_append {blanks : List Char} (space : IsSpace blanks) (s : List Char) :
    skipSpace (blanks ++ s) = skipSpace s :=
  List.dropWhile_append_of_pos space

theorem skipSpace_cons {c : Char}
    (shown : (c == ' ' || c == '\n' || c == '\t' || c == '\r') = false) (s : List Char) :
    skipSpace (c :: s) = c :: s := by
  rw [skipSpace, List.dropWhile_cons, shown]
  rfl

theorem skipSpace_skipSpace (s : List Char) : skipSpace (skipSpace s) = skipSpace s :=
  List.dropWhile_idempotent _ _

/-! Blank space before a part has no meaning. -/

theorem value?_skipSpace (fuel : Nat) (s : List Char) :
    value? fuel (skipSpace s) = value? fuel s := by
  cases fuel with
  | zero => rw [value?, value?]
  | succ fuel => rw [value?, value?, skipSpace_skipSpace]

theorem items?_skipSpace (fuel : Nat) (s : List Char) :
    items? fuel (skipSpace s) = items? fuel s := by
  cases fuel with
  | zero => rw [items?, items?]
  | succ fuel => rw [items?, items?, value?_skipSpace]

theorem members?_skipSpace (fuel : Nat) (s : List Char) :
    members? fuel (skipSpace s) = members? fuel s := by
  cases fuel with
  | zero => rw [members?, members?]
  | succ fuel => rw [members?, members?, skipSpace_skipSpace]

theorem value?_append {blanks : List Char} (space : IsSpace blanks) (fuel : Nat) (s : List Char) :
    value? fuel (blanks ++ s) = value? fuel s := by
  rw [← value?_skipSpace, skipSpace_append space, value?_skipSpace]

/-! A list that has been opened is read up to its end when it has any items. -/

theorem items?_close (fuel : Nat) (rest : List Char) : items? fuel (']' :: rest) = none := by
  rcases fuel with _ | _ | fuel
  · rw [items?]
  · rw [items?, value?, Option.bind_none]
  · rw [items?, value?, skipSpace_cons (by decide)]
    rfl

theorem members?_close (fuel : Nat) (rest : List Char) : members? fuel ('\x7d' :: rest) = none := by
  cases fuel with
  | zero => rw [members?]
  | succ fuel =>
      rw [members?, skipSpace_cons (by decide)]
      rfl

theorem value?_of_items? {fuel : Nat} {s rest : List Char} {items : List Written}
    (read : items? fuel s = some (items, rest)) :
    value? (fuel + 1) ('[' :: s) = some (arr items, rest) := by
  rw [← items?_skipSpace] at read
  rw [value?, skipSpace_cons (by decide)]
  simp only
  split
  · rename_i close
    rw [close, items?_close] at read
    cases read
  · rw [read, Option.map_some]

theorem value?_of_members? {fuel : Nat} {s rest : List Char}
    {members : List (Option String × Written)} (read : members? fuel s = some (members, rest)) :
    value? (fuel + 1) ('\x7b' :: s) = some (obj members, rest) := by
  rw [← members?_skipSpace] at read
  rw [value?, skipSpace_cons (by decide)]
  simp only
  split
  · rename_i close
    rw [close, members?_close] at read
    cases read
  · rw [read, Option.map_some]

/-- A text that is read as a value, up to its end. -/
def ReadsAs (text : List Char) (written : Written) : Prop :=
  ∀ (fuel : Nat) (rest : List Char), text.length < fuel → EndsNumber rest →
    value? fuel (text ++ rest) = some (written, rest)

theorem readsAs_null : ReadsAs "null".toList .null := by
  intro fuel rest enough _
  obtain ⟨fuel, rfl⟩ := Nat.exists_eq_succ_of_ne_zero (Nat.ne_zero_of_lt enough)
  simp [value?, skipSpace, after?]

theorem readsAs_bool (b : Bool) : ReadsAs (if b then "true" else "false").toList (.bool b) := by
  intro fuel rest enough _
  obtain ⟨fuel, rfl⟩ := Nat.exists_eq_succ_of_ne_zero (Nat.ne_zero_of_lt enough)
  cases b <;> simp [value?, skipSpace, after?]

theorem toList_quote_append (s : String) (rest : List Char) :
    (quote s).toList ++ rest = '"' :: (s.toList.flatMap escape ++ '"' :: rest) := by
  simp [quote]

theorem readsAs_str (s : String) : ReadsAs (quote s).toList (.str (some s)) := by
  intro fuel rest enough _
  obtain ⟨fuel, rfl⟩ := Nat.exists_eq_succ_of_ne_zero (Nat.ne_zero_of_lt enough)
  rw [toList_quote_append, value?, skipSpace_cons (by decide)]
  simp only [string?_quoted, Option.map_some, String.ofList_toList]

theorem endsNumber_cons {c : Char} (ends : isDigit c = false ∧ c ≠ '.' ∧ c ≠ 'e' ∧ c ≠ 'E')
    (rest : List Char) : EndsNumber (c :: rest) := by
  intro d first
  cases first
  exact ends

theorem endsNumber_append {blanks rest : List Char} (space : IsSpace blanks)
    (ends : EndsNumber rest) : EndsNumber (blanks ++ rest) := by
  cases blanks with
  | nil => exact ends
  | cons blank blanks =>
      have isBlank := space blank List.mem_cons_self
      simp only [Bool.or_eq_true, beq_iff_eq] at isBlank
      refine endsNumber_cons ?_ _
      rcases isBlank with ((rfl | rfl) | rfl) | rfl <;> decide

theorem value?_of_number? {c : Char} {s rest : List Char} {number : Option Number}
    (first : c = '-' ∨ isDigit c = true) (read : number? (c :: s) = some (number, rest))
    (fuel : Nat) : value? (fuel + 1) (c :: s) = some (.num number, rest) := by
  have shown : (c == ' ' || c == '\n' || c == '\t' || c == '\r') = false := by
    simp only [Bool.or_eq_false_iff, beq_eq_false_iff_ne]
    refine ⟨⟨⟨?_, ?_⟩, ?_⟩, ?_⟩ <;> rintro rfl <;> revert first <;> decide
  rw [value?, skipSpace_cons shown]
  split
  case h_7 => rw [read, Option.map_some]
  all_goals
    rename_i same
    obtain ⟨rfl, rfl⟩ := List.cons.inj same
    exact absurd first (by decide)

theorem readsAs_num {n : Int} (whole : IsWhole n) :
    ReadsAs (Number.int n).text.toList (.num (some (.int n))) := by
  intro fuel rest enough ends
  obtain ⟨fuel, rfl⟩ := Nat.exists_eq_succ_of_ne_zero (Nat.ne_zero_of_lt enough)
  obtain ⟨c, more, written, first⟩ := exists_toList_text n
  have read := number?_text whole ends
  rw [written, List.cons_append] at read ⊢
  exact value?_of_number? first read fuel

theorem ReadsAs.after_space {text : List Char} {written : Written} (reads : ReadsAs text written)
    {lead : List Char} (space : IsSpace lead) : ReadsAs (lead ++ text) written := by
  intro fuel rest enough ends
  rw [List.length_append] at enough
  rw [List.append_assoc, value?_append space, reads _ _ (by omega) ends]

structure ReadsList {α : Type} (all? : Nat → List Char → Option (List α × List Char))
    (opening closing : Char) (make : List α → Written) (Entry : List Char → α → Prop) :
    Prop where
  empty (fuel : Nat) (rest : List Char) :
    value? (fuel + 1) (opening :: closing :: rest) = some (make [], rest)
  filled {fuel : Nat} {s rest : List Char} {entries : List α} :
    all? fuel s = some (entries, rest) →
      value? (fuel + 1) (opening :: s) = some (make entries, rest)
  last {fuel : Nat} {text blanks rest : List Char} {entry : α} :
    Entry text entry → IsSpace blanks → text.length < fuel →
      all? (fuel + 1) (text ++ (blanks ++ closing :: rest)) = some ([entry], rest)
  more {fuel : Nat} {text rest left : List Char} {entry : α} {entries : List α} :
    Entry text entry → text.length < fuel → all? fuel rest = some (entries, left) →
      all? (fuel + 1) (text ++ ',' :: rest) = some (entry :: entries, left)

theorem readsList_items : ReadsList items? '[' ']' arr ReadsAs where
  empty := by simp [value?, skipSpace]
  filled := value?_of_items?
  last := by
    intro fuel text blanks rest item reads after enough
    have ends : EndsNumber (blanks ++ ']' :: rest) :=
      endsNumber_append after (endsNumber_cons (by decide) rest)
    rw [items?, reads _ _ enough ends, Option.bind_some]
    simp only [skipSpace_append after, skipSpace_cons (c := ']') (by decide)]
  more := by
    intro fuel text rest left item items reads enough later
    have ends : EndsNumber (',' :: rest) := endsNumber_cons (by decide) rest
    rw [items?, reads _ _ enough ends, Option.bind_some]
    simp only [skipSpace_cons (c := ',') (by decide), later, Option.map_some]

def IsMember (text : List Char) (member : Option String × Written) : Prop :=
  ∃ lead name valueText, text = lead ++ ((quote name).toList ++ (": ".toList ++ valueText)) ∧
    IsSpace lead ∧ member.1 = some name ∧ ReadsAs valueText member.2

theorem members?_isMember {text : List Char} {member : Option String × Written}
    (isMember : IsMember text member) {fuel : Nat} {rest tail : List Char}
    (enough : text.length < fuel) (ends : EndsNumber rest) :
    (skipSpace rest = '\x7d' :: tail →
      members? (fuel + 1) (text ++ rest) = some ([member], tail)) ∧
    (skipSpace rest = ',' :: tail →
      ∀ {members left}, members? fuel tail = some (members, left) →
        members? (fuel + 1) (text ++ rest) = some (member :: members, left)) := by
  obtain ⟨lead, name, valueText, rfl, space, named, reads⟩ := isMember
  obtain ⟨_, written⟩ := member
  cases named
  have blank : IsSpace [' '] := by simp [IsSpace]
  have parts : ": ".toList ++ valueText ++ rest = ':' :: ([' '] ++ (valueText ++ rest)) := by simp
  have shorter : valueText.length < fuel := by
    simp only [List.length_append] at enough
    omega
  rw [members?, List.append_assoc, skipSpace_append space, List.append_assoc, toList_quote_append,
    skipSpace_cons (by decide)]
  simp only [string?_quoted, Option.bind_some, parts, skipSpace_cons (c := ':') (by decide),
    value?_append blank, reads _ _ shorter ends, String.ofList_toList]
  constructor
  · intro next
    simp only [next]
  · intro next members left later
    simp only [next, later, Option.map_some]

theorem readsList_members : ReadsList members? '\x7b' '\x7d' obj IsMember where
  empty := by simp [value?, skipSpace]
  filled := value?_of_members?
  last := by
    intro fuel text blanks rest member isMember after enough
    have ends : EndsNumber (blanks ++ '\x7d' :: rest) :=
      endsNumber_append after (endsNumber_cons (by decide) rest)
    refine (members?_isMember isMember enough ends).1 ?_
    rw [skipSpace_append after, skipSpace_cons (by decide)]
  more := by
    intro fuel text rest left member members isMember enough later
    have ends : EndsNumber (',' :: rest) := endsNumber_cons (by decide) rest
    exact (members?_isMember isMember enough ends).2 (skipSpace_cons (by decide) rest) later

namespace ReadsList

variable {α : Type} {all? : Nat → List Char → Option (List α × List Char)}
  {opening closing : Char} {make : List α → Written} {Entry : List Char → α → Prop}

theorem lines (reads : ReadsList all? opening closing make Entry) {blanks : List Char}
    (after : IsSpace blanks) {lines : List (List Char)} {entries : List α}
    (each : List.Forall₂ (fun line entry => Entry ('\n' :: line) entry) lines entries)
    (filled : lines ≠ []) (fuel : Nat) (rest : List Char)
    (enough : ([',', '\n'].intercalate lines).length + 1 < fuel) :
    all? (fuel + 1) ('\n' :: ([',', '\n'].intercalate lines ++ (blanks ++ closing :: rest))) =
      some (entries, rest) := by
  -- Every line takes one unit of fuel, and is longer than that with its comma and its feed.
  induction each generalizing fuel with
  | nil => exact absurd rfl filled
  | @cons line entry lines entries isEntry each ih =>
      cases lines with
      | nil =>
          cases each
          rw [List.intercalate_singleton] at enough ⊢
          exact reads.last isEntry after enough
      | cons next lines =>
          rw [List.intercalate_cons_cons] at enough ⊢
          rw [List.length_append, List.length_append, List.length_cons, List.length_singleton]
            at enough
          obtain ⟨fuel, rfl⟩ := Nat.exists_eq_succ_of_ne_zero (Nat.ne_zero_of_lt enough)
          have later := ih (List.cons_ne_nil next lines) fuel (by omega)
          rw [List.append_assoc, List.append_assoc]
          exact reads.more isEntry (by rw [List.length_cons]; omega) later

def indented (level : Nat) (items : List String) : List (List Char) :=
  items.map fun item => (indentation level).toList ++ item.toList

theorem toList_block {items : List String} (filled : items ≠ []) (left right : String)
    (level : Nat) : (block left right level items).toList =
      left.toList ++ '\n' :: ([',', '\n'].intercalate (indented (level + 1) items) ++
        ('\n' :: (indentation level).toList ++ right.toList)) := by
  rw [block, if_neg (by simpa using filled), indented]
  simp [String.toList_intercalate, Function.comp_def]

theorem readsAs_block (reads : ReadsList all? opening closing make Entry) {level : Nat}
    {items : List String} {entries : List α}
    (each : List.Forall₂ (fun item entry =>
      ∀ lead, IsSpace lead → Entry (lead ++ item.toList) entry) items entries)
    {left right : String} (opens : left.toList = [opening]) (closes : right.toList = [closing]) :
    ReadsAs (block left right level items).toList (make entries) := by
  intro fuel rest enough _
  rcases eq_or_ne items [] with rfl | filled
  · obtain rfl := List.forall₂_nil_left_iff.mp each
    obtain ⟨fuel, rfl⟩ := Nat.exists_eq_succ_of_ne_zero (Nat.ne_zero_of_lt enough)
    simp [block, opens, closes, reads.empty]
  · have after : IsSpace ('\n' :: (indentation level).toList) :=
      isSpace_feed.append (isSpace_indentation level)
    have space : IsSpace ('\n' :: (indentation (level + 1)).toList) :=
      isSpace_feed.append (isSpace_indentation (level + 1))
    have lined : List.Forall₂ (fun line entry => Entry ('\n' :: line) entry)
        (indented (level + 1) items) entries :=
      List.forall₂_map_left_iff.mpr (each.imp fun _ _ isEntry => isEntry _ space)
    have text : (block left right level items).toList ++ rest = opening :: '\n' ::
        ([',', '\n'].intercalate (indented (level + 1) items) ++
          ('\n' :: (indentation level).toList ++ closing :: rest)) := by
      rw [toList_block filled, opens, closes]
      simp
    rw [toList_block filled, opens, closes] at enough
    simp only [List.length_append, List.length_cons, List.length_nil] at enough
    -- The two brackets pay for opening the list and for reading its first line.
    obtain ⟨fuel, rfl⟩ : ∃ n, fuel = n + 2 := ⟨fuel - 2, by omega⟩
    have read := reads.lines after lined (by simpa [indented] using filled) fuel rest (by omega)
    rw [text]
    exact reads.filled read

end ReadsList

/-- A value whose numbers are whole and fit 64 bits. -/
inductive IsExact : Json → Prop where
  | null : IsExact .null
  | bool (b : Bool) : IsExact (.bool b)
  | int {n : Int} (whole : IsWhole n) : IsExact (.num (.int n))
  | str (s : String) : IsExact (.str s)
  | arr {items : List Json} (each : ∀ item ∈ items, IsExact item) : IsExact (.arr items)
  | obj {members : List (String × Json)} (each : ∀ member ∈ members, IsExact member.2) :
      IsExact (.obj members)

theorem prettyAt_arr (level : Nat) (items : List Json) :
    prettyAt level (.arr items) = block "[" "]" level (items.map (prettyAt (level + 1))) := by
  have each : ∀ level, prettyAt.prettyItems level items = items.map (prettyAt level) := by
    intro level
    induction items with
    | nil => rfl
    | cons item items ih => rw [prettyAt.prettyItems, ih, List.map_cons]
  rw [prettyAt, each]

theorem prettyAt_obj (level : Nat) (members : List (String × Json)) :
    prettyAt level (.obj members) = block "\x7b" "\x7d" level
      (members.map fun member => quote member.1 ++ ": " ++ prettyAt (level + 1) member.2) := by
  have each : ∀ level, prettyAt.prettyMembers level members =
      members.map fun member => quote member.1 ++ ": " ++ prettyAt level member.2 := by
    intro level
    induction members with
    | nil => rfl
    | cons member members ih =>
        obtain ⟨name, value⟩ := member
        rw [prettyAt.prettyMembers, ih, List.map_cons]
  rw [prettyAt, each]

theorem IsExact.readsAs {value : Json} (exact : IsExact value) (level : Nat) :
    ReadsAs (prettyAt level value).toList (ofJson value) := by
  induction exact generalizing level with
  | null => exact readsAs_null
  | bool b => exact readsAs_bool b
  | int whole => exact readsAs_num whole
  | str s => exact readsAs_str s
  | @arr items _ ih =>
      rw [prettyAt_arr, ofJson_arr]
      refine readsList_items.readsAs_block ?_ rfl rfl
      rw [List.forall₂_map_left_iff, List.forall₂_map_right_iff, List.forall₂_same]
      intro item member lead space
      exact (ih item member (level + 1)).after_space space
  | @obj members _ ih =>
      rw [prettyAt_obj, ofJson_obj]
      refine readsList_members.readsAs_block ?_ rfl rfl
      rw [List.forall₂_map_left_iff, List.forall₂_map_right_iff, List.forall₂_same]
      intro member listed lead space
      exact ⟨lead, member.1, _, by simp, space, rfl, ih member listed (level + 1)⟩

/-- A document is read as the value it was written from. -/
theorem ofText?_pretty {value : Json} (exact : IsExact value) :
    ofText? value.pretty.toList = some (ofJson value) := by
  have read := exact.readsAs 0 (2 * (prettyAt 0 value).toList.length + 2) [] (by omega)
    (by simp [EndsNumber])
  rw [List.append_nil] at read
  rw [pretty, ofText?, read]
  rfl

end ReleaseDrift.Json.Written
