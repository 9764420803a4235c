import ReleaseDrift.Proofs.Report.Formatter

/-!
The files of a level as text. The loop that lists them shows the first ones up to the limit, counts
the others as more, and notes that it has left them out.
-/

namespace ReleaseDrift

def ClassifiedFile.text (file : ClassifiedFile) : String :=
  "  " ++ file.file ++ " [" ++ file.status.name ++ "]: " ++ file.reason ++ "\n"

def ClassifiedItem.text (item : ClassifiedItem) : String :=
  "  " ++ item.level.column ++ " " ++
    (if item.name = item.model then item.model else item.model ++ "." ++ item.name) ++
    " (" ++ item.kind.label ++ "): " ++ item.reason ++
    (match item.detail with
      | some detail => "  " ++ detail
      | none => "") ++ "\n"

structure Listing where
  level : Level
  shown : List ClassifiedFile
  omitted : List ClassifiedFile

namespace Listing

def files (listing : Listing) : List ClassifiedFile := listing.shown ++ listing.omitted

def text (listing : Listing) : String :=
  listing.level.name ++ " (" ++ toString listing.files.length ++ ")\n" ++
    String.join (listing.shown.map (·.text)) ++
    if listing.omitted = [] then ""
    else "  ... " ++ toString listing.omitted.length ++ " more\n"

/-- As many files are shown as the limit allows, and the others are those that it is short of. -/
structure IsWithin (limit : Option Nat) (listing : Listing) : Prop where
  unlimited : limit = none → listing.omitted = []
  shown : ∀ most, limit = some most → listing.shown.length = min listing.files.length most
  cut : ∀ most, limit = some most → (listing.omitted ≠ [] ↔ most < listing.files.length)
  balance : ∀ most, limit = some most → listing.omitted ≠ [] →
    most + listing.omitted.length = listing.files.length

def upTo (limit : Option Nat) (level : Level) (files : List ClassifiedFile) : Listing :=
  match limit with
  | some most => ⟨level, files.take most, files.drop most⟩
  | none => ⟨level, files, []⟩

section UpTo

variable (limit : Option Nat) (level : Level) (files : List ClassifiedFile)

theorem level_upTo : (upTo limit level files).level = level := by
  cases limit <;> rfl

theorem files_upTo : (upTo limit level files).files = files := by
  cases limit with
  | none => exact List.append_nil files
  | some most => exact List.take_append_drop most files

theorem isWithin_upTo : (upTo limit level files).IsWithin limit where
  unlimited none := by
    subst none
    rfl
  shown most some := by
    subst some
    rw [files_upTo, Nat.min_comm]
    exact List.length_take
  cut most some := by
    subst some
    rw [files_upTo]
    simp [upTo]
  balance most some cut := by
    subst some
    rw [files_upTo]
    simp [upTo] at cut ⊢
    omega

theorem omitted_upTo_eq_nil_iff :
    (upTo limit level files).omitted = [] ↔ ∀ most, limit = some most → files.length ≤ most := by
  cases limit <;> simp [upTo]

end UpTo

end Listing

namespace Formatter

def writeListing (formatter : Formatter) (listing : Listing) : Formatter :=
  let formatter := listing.shown.foldl writeFile formatter
  if listing.omitted = [] then formatter
  else
    formatter.truncate.writeLine ("  ... " ++ toString listing.omitted.length ++ " more")

section Loop

variable {formatter : Formatter} (total : Nat)

theorem writeFiles_of_unlimited (unlimited : formatter.limit = none) (shown : Nat)
    (files : List ClassifiedFile) :
    formatter.writeFiles total shown files = files.foldl writeFile formatter := by
  induction files generalizing formatter shown with
  | nil => rfl
  | cons file files ih =>
      have kept : (formatter.writeFile file).limit = none :=
        (frame_eq_iff.mp (formatter.frame_writeFile file)).2.1.trans unlimited
      rw [writeFiles, unlimited, List.foldl_cons]
      exact ih kept (shown + 1)

/-- The loop shows files while the limit lasts, and ends at the first file beyond it. -/
theorem writeFiles_of_limit {most shown : Nat} (limited : formatter.limit = some most)
    (below : shown ≤ most) (files : List ClassifiedFile) :
    formatter.writeFiles total shown files =
      if most - shown < files.length then
        ((files.take (most - shown)).foldl writeFile formatter).truncate.writeLine
          ("  ... " ++ toString (total - most) ++ " more")
      else files.foldl writeFile formatter := by
  induction files generalizing formatter shown with
  | nil => rfl
  | cons file files ih =>
      have kept : (formatter.writeFile file).limit = some most :=
        (frame_eq_iff.mp (formatter.frame_writeFile file)).2.1.trans limited
      rw [writeFiles, limited]
      by_cases reached : most ≤ shown
      · have spent : most - shown = 0 := Nat.sub_eq_zero_of_le reached
        have stops : (some most).filter (· ≤ shown) = some most :=
          Option.filter_some_pos (by simpa using reached)
        rw [spent, stops]
        exact (if_pos (Nat.zero_lt_succ files.length)).symm
      · have left : most - shown = most - (shown + 1) + 1 := by omega
        rw [Option.filter_some_neg (by simpa using reached), left, List.take_succ_cons,
          List.foldl_cons, List.foldl_cons, List.length_cons]
        simp only [Nat.add_lt_add_iff_right]
        exact ih kept (Nat.lt_of_not_le reached)

theorem writeFiles_eq (level : Level) (files : List ClassifiedFile) :
    formatter.writeFiles files.length 0 files =
      formatter.writeListing (.upTo formatter.limit level files) := by
  cases limit : formatter.limit with
  | none => exact writeFiles_of_unlimited files.length limit 0 files
  | some most =>
      rw [writeFiles_of_limit _ limit (Nat.zero_le most), Nat.sub_zero, writeListing, Listing.upTo]
      by_cases fits : files.length ≤ most
      · rw [if_neg (Nat.not_lt.mpr fits), if_pos (List.drop_of_length_le fits),
          List.take_of_length_le fits]
      · have cut := Nat.lt_of_not_le fits
        rw [if_pos cut, if_neg (by simpa using cut), List.length_drop]

end Loop

section Level

variable (formatter : Formatter) (level : Level) (files : List ClassifiedFile)

theorem asked_writeListing (listing : Listing) :
    (formatter.writeListing listing).asked = formatter.asked := by
  have shown := asked_eq_of_frame_eq (formatter.frame_foldl frame_writeFile listing.shown)
  rw [writeListing]
  split <;> exact shown

theorem truncated_writeListing_iff (listing : Listing) :
    (formatter.writeListing listing).truncated = true ↔
      formatter.truncated = true ∨ listing.omitted ≠ [] := by
  obtain ⟨_, _, shown⟩ := frame_eq_iff.mp (formatter.frame_foldl frame_writeFile listing.shown)
  rw [writeListing]
  split
  · rename_i none
    rw [shown]
    simp [none]
  · rename_i some
    exact iff_of_true rfl (Or.inr some)

def writeHeading : Formatter :=
  formatter.setStyle (.ofLevel level) |>.write level.name |>.reset
    |>.writeLine (" (" ++ toString files.length ++ ")")

theorem frame_writeHeading : (formatter.writeHeading level files).frame = formatter.frame := by
  simp [writeHeading]

theorem writeLevel_eq :
    formatter.writeLevel level files =
      (formatter.writeHeading level files).writeListing (.upTo formatter.limit level files) := by
  rw [writeLevel, ← writeHeading, writeFiles_eq level,
    (frame_eq_iff.mp (formatter.frame_writeHeading level files)).2.1]

theorem asked_writeLevel : (formatter.writeLevel level files).asked = formatter.asked := by
  rw [writeLevel_eq, asked_writeListing]
  exact asked_eq_of_frame_eq (formatter.frame_writeHeading level files)

theorem truncated_writeLevel_iff :
    (formatter.writeLevel level files).truncated = true ↔ formatter.truncated = true ∨
      ∃ most, formatter.limit = some most ∧ most < files.length := by
  rw [writeLevel_eq, truncated_writeListing_iff, Ne, Listing.omitted_upTo_eq_nil_iff,
    (frame_eq_iff.mp (formatter.frame_writeHeading level files)).2.2]
  simp only [Classical.not_forall, exists_prop, Nat.not_le]

end Level

section Plain

variable {formatter : Formatter} (noColour : formatter.colour = false)

include noColour

theorem out_writeFile (file : ClassifiedFile) :
    (formatter.writeFile file).out = formatter.out ++ file.text := by
  simp [writeFile, writeLine, setStyle_of_noColour, reset_of_noColour, noColour,
    ClassifiedFile.text, String.append_assoc]

theorem out_writeItem (item : ClassifiedItem) :
    (formatter.writeItem item).out = formatter.out ++ item.text := by
  rw [writeItem, ClassifiedItem.text]
  cases item.detail <;> by_cases same : item.name = item.model <;>
    simp [same, writeLine, setStyle_of_noColour, reset_of_noColour, noColour, String.append_assoc]

theorem out_foldl_writeFile (files : List ClassifiedFile) :
    (files.foldl writeFile formatter).out =
      formatter.out ++ String.join (files.map (·.text)) :=
  out_foldl formatter (fun formatter file => asked_eq_of_frame_eq (formatter.frame_writeFile file))
    files (fun _ file => file.text) (fun _ file noColour => out_writeFile noColour file) noColour

theorem out_writeLevel (level : Level) (files : List ClassifiedFile) :
    (formatter.writeLevel level files).out =
      formatter.out ++ (Listing.upTo formatter.limit level files).text := by
  have heading : formatter.writeHeading level files =
      formatter.write (level.name ++ " (" ++ toString files.length ++ ")\n") := by
    simp [writeHeading, writeLine, setStyle_of_noColour, reset_of_noColour, noColour, write,
      String.append_assoc]
  have headed : (formatter.writeHeading level files).colour = false := by
    rw [heading, colour_write, noColour]
  have shown := out_foldl_writeFile headed (Listing.upTo formatter.limit level files).shown
  rw [writeLevel_eq, writeListing, Listing.text, Listing.level_upTo, Listing.files_upTo]
  split
  · rw [shown, heading, out_write]
    simp only [String.append_assoc, String.append_empty]
  · rw [writeLine, out_write]
    refine (congrArg (· ++ _) shown).trans ?_
    rw [heading, out_write]
    simp only [String.append_assoc]
    rfl

end Plain

end Formatter

end ReleaseDrift
