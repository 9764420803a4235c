import ReleaseDrift.Report.Styled

/-!
What a terminal makes of the text that is sent to it: characters to show, and settings of their
style. And which settings are taken back, so that the terminal is left as it was found.
-/

namespace ReleaseDrift

/-- What a terminal takes a text for: characters to show, and settings of the style to show
    them in. -/
inductive Signal where
  | shown (letter : Char)
  | setting (code : List Char)
  deriving Repr, DecidableEq

def Signal.letter? : Signal → Option Char
  | shown letter => some letter
  | setting _ => none

/-- Reads a text, from within a sequence when some of its code has been read already. A sequence
    that never ends is text. -/
def readSignals : Option (List Char) → List Char → List Signal
  | none, [] => []
  | none, '\x1b' :: '[' :: rest => readSignals (some []) rest
  | none, letter :: rest => .shown letter :: readSignals none rest
  | some code, [] => ('\x1b' :: '[' :: code).map .shown
  | some code, 'm' :: rest => .setting code :: readSignals none rest
  | some code, letter :: rest => readSignals (some (code ++ [letter])) rest

def signals (text : String) : List Signal := readSignals none text.toList

def erased (text : String) : String := String.ofList ((signals text).filterMap (·.letter?))

def HasNoEscape (text : String) : Prop := '\x1b' ∉ text.toList

instance (text : String) : Decidable (HasNoEscape text) :=
  inferInstanceAs (Decidable ('\x1b' ∉ text.toList))

section Reading

variable (rest : List Char)

theorem readSignals_shown {text : List Char} (unescaped : '\x1b' ∉ text) :
    readSignals none (text ++ rest) = text.map .shown ++ readSignals none rest := by
  induction text with
  | nil => rfl
  | cons letter text ih =>
      rw [List.mem_cons, not_or] at unescaped
      rw [List.cons_append, readSignals, ih unescaped.2, List.map_cons, List.cons_append]
      intro _ escape
      exact absurd escape.symm unescaped.1

theorem readSignals_code (read : List Char) {code : List Char} (unended : 'm' ∉ code) :
    readSignals (some read) (code ++ 'm' :: rest) =
      .setting (read ++ code) :: readSignals none rest := by
  induction code generalizing read with
  | nil => rw [List.nil_append, readSignals, List.append_nil]
  | cons letter code ih =>
      rw [List.mem_cons, not_or] at unended
      rw [List.cons_append, readSignals, ih _ unended.2, List.append_assoc, List.singleton_append]
      intro last
      exact absurd last.symm unended.1

theorem readSignals_sequence {code : List Char} (unended : 'm' ∉ code) :
    readSignals none (Style.sequence code ++ rest) = .setting code :: readSignals none rest := by
  have spelled : Style.sequence code ++ rest = '\x1b' :: '[' :: (code ++ 'm' :: rest) := by
    simp [Style.sequence]
  rw [spelled, readSignals, readSignals_code rest [] unended, List.nil_append]

end Reading

namespace Style

/-- The codes of the sequences that set a style, in their order. -/
def settings (style : Style) : List (List Char) :=
  [['0']] ++ (if style.bold then [['1']] else []) ++ (if style.dimmed then [['2']] else []) ++
    match style.colour with
    | some colour => [['3', colour.code]]
    | none => []

theorem codes_eq (style : Style) : style.codes = style.settings.flatMap sequence := by
  obtain ⟨colour, bold, dimmed⟩ := style
  cases colour <;> cases bold <;> cases dimmed <;> rfl

theorem unended_of_mem_settings {style : Style} {code : List Char}
    (member : code ∈ style.settings) : 'm' ∉ code := by
  obtain ⟨colour, bold, dimmed⟩ := style
  revert code
  cases bold <;> cases dimmed <;> rcases colour with _ | _ | _ | _ | _ | _ <;> decide

theorem readSignals_codes (style : Style) (rest : List Char) :
    readSignals none (style.codes ++ rest) =
      style.settings.map .setting ++ readSignals none rest := by
  have unended : ∀ code ∈ style.settings, 'm' ∉ code := fun _ => unended_of_mem_settings
  rw [codes_eq]
  generalize style.settings = settings at unended
  induction settings with
  | nil => rfl
  | cons code settings ih =>
      rw [List.forall_mem_cons] at unended
      rw [List.flatMap_cons, List.append_assoc, readSignals_sequence _ unended.1, ih unended.2,
        List.map_cons, List.cons_append]

def set (style : Style) : List Char → Style
  | ['0'] => {}
  | ['1'] => { style with bold := true }
  | ['2'] => { style with dimmed := true }
  | ['3', '1'] => { style with colour := some .red }
  | ['3', '2'] => { style with colour := some .green }
  | ['3', '3'] => { style with colour := some .yellow }
  | ['3', '5'] => { style with colour := some .magenta }
  | ['3', '6'] => { style with colour := some .cyan }
  | _ => style

def after (style : Style) : List Signal → Style
  | [] => style
  | .shown _ :: rest => style.after rest
  | .setting code :: rest => (style.set code).after rest

theorem after_append (style : Style) (left right : List Signal) :
    style.after (left ++ right) = (style.after left).after right := by
  induction left generalizing style with
  | nil => rfl
  | cons signal left ih =>
      cases signal with
      | shown letter => exact ih style
      | setting code => exact ih (style.set code)

end Style

/-- Characters in no style, and characters in one: behind the settings of the style come only
    characters, and behind these the reset that takes it back. -/
inductive IsDecorated : List Signal → Prop where
  | nothing : IsDecorated []
  | shown (letter : Char) {rest : List Signal} : IsDecorated rest →
      IsDecorated (.shown letter :: rest)
  | styled (style : Style) (text : List Char) {rest : List Signal} : IsDecorated rest →
      IsDecorated (style.settings.map .setting ++ text.map .shown ++ .setting ['0'] :: rest)

namespace IsDecorated

theorem append {left right : List Signal} (first : IsDecorated left) (second : IsDecorated right) :
    IsDecorated (left ++ right) := by
  induction first with
  | nothing => exact second
  | shown letter _ ih => exact .shown letter ih
  | styled style text _ ih =>
      rw [List.append_assoc, List.cons_append]
      exact .styled style text ih

theorem text (letters : List Char) : IsDecorated (letters.map .shown) := by
  induction letters with
  | nil => exact .nothing
  | cons letter letters ih => exact .shown letter ih

theorem after_eq {signals : List Signal} (decorated : IsDecorated signals) :
    ({} : Style).after signals = {} := by
  induction decorated with
  | nothing => rfl
  | shown letter _ ih => exact ih
  | styled style text _ ih =>
      rw [Style.after_append]
      exact ih

end IsDecorated

@[simp] theorem signals_empty : signals "" = [] := rfl

theorem signals_append_of_hasNoEscape {text : String} (unescaped : HasNoEscape text)
    (rest : String) : signals (text ++ rest) = text.toList.map .shown ++ signals rest := by
  rw [signals, String.toList_append, readSignals_shown _ unescaped, signals]

theorem signals_append_of_styled (style : Style) {text : String} (unescaped : HasNoEscape text)
    (rest : String) :
    signals (.ofList style.codes ++ text ++ .ofList Style.reset ++ rest) =
      style.settings.map .setting ++ text.toList.map .shown ++ .setting ['0'] :: signals rest := by
  have unended : 'm' ∉ ['0'] := by decide
  simp only [signals, String.toList_append, String.toList_ofList, List.append_assoc]
  rw [Style.readSignals_codes, readSignals_shown _ unescaped, Style.reset,
    readSignals_sequence _ unended]

namespace Signal

theorem letters_shown (text : List Char) : (text.map shown).filterMap letter? = text := by
  rw [List.filterMap_map]
  exact List.filterMap_some

theorem letters_settings (codes : List (List Char)) :
    (codes.map setting).filterMap letter? = [] := by
  simp [letter?]

end Signal

end ReleaseDrift
