import ReleaseDrift.Report.Text

/-!
What a formatter is after it has written. Nothing that it writes changes what it was asked for, and
without colour it writes no more than the text.
-/

namespace ReleaseDrift.Formatter

variable (formatter : Formatter)

/-- All that a formatter has beside the text that it has written. -/
def frame : Formatter := { formatter with out := "" }

@[simp] theorem frame_write (text : String) : (formatter.write text).frame = formatter.frame := rfl

@[simp] theorem frame_writeLine (text : String) :
    (formatter.writeLine text).frame = formatter.frame := rfl

@[simp] theorem frame_setStyle (style : Style) :
    (formatter.setStyle style).frame = formatter.frame := by
  rw [setStyle]
  split <;> rfl

@[simp] theorem frame_reset : formatter.reset.frame = formatter.frame := by
  rw [reset]
  split <;> rfl

theorem frame_foldl {Entry : Type} {write : Formatter → Entry → Formatter}
    (keeps : ∀ formatter entry, (write formatter entry).frame = formatter.frame)
    (entries : List Entry) : (entries.foldl write formatter).frame = formatter.frame := by
  induction entries generalizing formatter with
  | nil => rfl
  | cons entry entries ih => rw [List.foldl_cons, ih, keeps]

@[simp] theorem frame_writeFile (file : ClassifiedFile) :
    (formatter.writeFile file).frame = formatter.frame := by
  simp [writeFile]

@[simp] theorem frame_writeQuiet (level : Level) (count : Nat) :
    (formatter.writeQuiet level count).frame = formatter.frame := by
  rw [writeQuiet]
  split <;> simp

@[simp] theorem frame_writeItem (item : ClassifiedItem) :
    (formatter.writeItem item).frame = formatter.frame := by
  rw [writeItem]
  cases item.detail <;> by_cases same : item.name = item.model <;> simp [same]

@[simp] theorem frame_writeItems (report : Report) :
    (formatter.writeItems report).frame = formatter.frame := by
  rw [writeItems]
  split
  · rfl
  · simp [frame_foldl _ frame_writeItem]

@[simp] theorem frame_writeSummary (report : Report) (failOn : Level) :
    (formatter.writeSummary report failOn).frame = formatter.frame := by
  rw [writeSummary]
  cases report.reaches failOn <;> cases report.summary.highest <;> simp

def asked : Bool × Option Nat := (formatter.colour, formatter.limit)

section Same

variable {before after : Formatter}

theorem frame_eq_iff : after.frame = before.frame ↔
    after.colour = before.colour ∧ after.limit = before.limit ∧
      after.truncated = before.truncated := by
  simp [frame]

theorem asked_eq_iff : after.asked = before.asked ↔
    after.colour = before.colour ∧ after.limit = before.limit :=
  Prod.mk.injEq _ _ _ _ ▸ Iff.rfl

theorem asked_eq_of_frame_eq (same : after.frame = before.frame) : after.asked = before.asked :=
  have ⟨colour, limit, _⟩ := frame_eq_iff.mp same
  asked_eq_iff.mpr ⟨colour, limit⟩

end Same

section Loop

variable {Entry : Type} {write : Formatter → Entry → Formatter}
  (keeps : ∀ formatter entry, (write formatter entry).asked = formatter.asked)
  (entries : List Entry)

include keeps

theorem asked_foldl : (entries.foldl write formatter).asked = formatter.asked := by
  induction entries generalizing formatter with
  | nil => rfl
  | cons entry entries ih => rw [List.foldl_cons, ih, keeps]

theorem truncated_foldl_iff (cuts : Option Nat → Entry → Prop)
    (each : ∀ formatter entry, (write formatter entry).truncated = true ↔
      formatter.truncated = true ∨ cuts formatter.limit entry) :
    (entries.foldl write formatter).truncated = true ↔
      formatter.truncated = true ∨ ∃ entry ∈ entries, cuts formatter.limit entry := by
  induction entries generalizing formatter with
  | nil => simp
  | cons entry entries ih =>
      rw [List.foldl_cons, ih, each, (asked_eq_iff.mp (keeps formatter entry)).2]
      simp only [List.mem_cons, exists_eq_or_imp, or_assoc]

theorem out_foldl (text : Option Nat → Entry → String)
    (each : ∀ (formatter : Formatter) (entry : Entry), formatter.colour = false →
      (write formatter entry).out = formatter.out ++ text formatter.limit entry)
    (noColour : formatter.colour = false) :
    (entries.foldl write formatter).out =
      formatter.out ++ String.join (entries.map (text formatter.limit)) := by
  induction entries generalizing formatter with
  | nil => exact String.append_empty.symm
  | cons entry entries ih =>
      obtain ⟨colour, limit⟩ := asked_eq_iff.mp (keeps formatter entry)
      rw [List.foldl_cons, ih _ (colour.trans noColour), each formatter entry noColour, limit,
        List.map_cons, String.join_cons, String.append_assoc]

end Loop

section Plain

@[simp] theorem out_write (text : String) :
    (formatter.write text).out = formatter.out ++ text := rfl

@[simp] theorem colour_write (text : String) :
    (formatter.write text).colour = formatter.colour := rfl

variable {formatter} (noColour : formatter.colour = false)

include noColour

theorem setStyle_of_noColour (style : Style) : formatter.setStyle style = formatter := by
  simp [setStyle, noColour]

theorem reset_of_noColour : formatter.reset = formatter := by
  simp [reset, noColour]

end Plain

end ReleaseDrift.Formatter
