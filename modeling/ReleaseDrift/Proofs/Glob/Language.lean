import Mathlib.Data.Set.NAry
import ReleaseDrift.Glob.Matching

/-!
The language of a pattern, and that matching decides it: after each token the starts of the text
that are marked are those for which the tokens so far stand.
-/

namespace ReleaseDrift.Glob

abbrev Language := Set (List UInt8)

def joined (starts more : Language) : Language := Set.image2 (· ++ ·) starts more

theorem joined_assoc (starts more rest : Language) :
    joined (joined starts more) rest = joined starts (joined more rest) :=
  Set.image2_assoc List.append_assoc

theorem joined_union (starts more other : Language) :
    joined starts (more ∪ other) = joined starts more ∪ joined starts other :=
  Set.image2_union_right

theorem joined_empty (starts : Language) : joined starts ∅ = ∅ :=
  Set.image2_empty_right

theorem joined_nil (starts : Language) : joined starts {[]} = starts := by
  simp [joined, Set.image2_singleton_right]

theorem nil_joined (more : Language) : joined {[]} more = more := by
  simp [joined, Set.image2_singleton_left]

theorem singleton_joined_singleton (s t : List UInt8) : joined {s} {t} = {s ++ t} :=
  Set.image2_singleton

theorem mem_joined_univ {starts : Language} {s : List UInt8} :
    s ∈ joined starts Set.univ ↔ ∃ first ∈ starts, first <+: s := by
  constructor
  · rintro ⟨first, member, rest, _, rfl⟩
    exact ⟨first, member, List.prefix_append first rest⟩
  · rintro ⟨first, member, rest, rfl⟩
    exact Set.mem_image2_of_mem member (Set.mem_univ rest)

def oneByte (p : UInt8 → Bool) : Language := {s | ∃ b, p b = true ∧ s = [b]}

theorem oneByte_beq (b : UInt8) : oneByte (· == b) = {[b]} := by
  ext s
  constructor
  · rintro ⟨other, same, rfl⟩
    exact congrArg (fun b => [b]) (eq_of_beq same)
  · rintro rfl
    exact ⟨b, beq_self_eq_true b, rfl⟩

theorem nil_notMem_joined_oneByte (starts : Language) (p : UInt8 → Bool) :
    [] ∉ joined starts (oneByte p) := by
  rintro ⟨first, _, _, ⟨b, _, rfl⟩, empty⟩
  exact List.append_ne_nil_of_right_ne_nil first (List.cons_ne_nil b []) empty

theorem append_singleton_mem_joined_oneByte {starts : Language} {p : UInt8 → Bool}
    {s : List UInt8} {b : UInt8} :
    s ++ [b] ∈ joined starts (oneByte p) ↔ s ∈ starts ∧ p b = true := by
  constructor
  · rintro ⟨first, member, _, ⟨last, passes, rfl⟩, same⟩
    obtain ⟨rfl, lasts⟩ := List.append_inj' same rfl
    obtain rfl : last = b := List.singleton_inj.mp lasts
    exact ⟨member, passes⟩
  · rintro ⟨member, passes⟩
    exact Set.mem_image2_of_mem member ⟨b, passes, rfl⟩

mutual

def Token.language : Token → Language
  | .literal c => {String.utf8EncodeChar c}
  | .any => oneByte fun _ => true
  | .many => Set.univ
  | .leadingDirs => {[]} ∪ joined Set.univ (oneByte (· == slash))
  | .trailingDirs => joined (oneByte (· == slash)) Set.univ
  | .innerDirs => joined (oneByte (· == slash)) ({[]} ∪ joined Set.univ (oneByte (· == slash)))
  | .range negated ranges => oneByte fun b => ranges.any (coversByte b) != negated
  | .choice branches => if areVoid branches then {[]} else choiceLanguage branches

def choiceLanguage : List (List Token) → Language
  | [] => ∅
  | branch :: more =>
      if isVoid branch then choiceLanguage more else language branch ∪ choiceLanguage more

def language : List Token → Language
  | [] => {[]}
  | token :: more => joined token.language (language more)

end

theorem language_append (tokens more : List Token) :
    language (tokens ++ more) = joined (language tokens) (language more) := by
  induction tokens with
  | nil => rw [List.nil_append, language, nil_joined]
  | cons token tokens ih => rw [List.cons_append, language, language, ih, joined_assoc]

theorem language_literals (s : List Char) : language (s.map .literal) = {bytes s} := by
  induction s with
  | nil => rfl
  | cons c s ih =>
      rw [List.map_cons, language, ih, Token.language, singleton_joined_singleton]
      rfl

namespace Marks

/-- The starts of a text that are marked are those in a language. -/
structure PicksOut (marks : Marks) (text : List UInt8) (starts : Language) : Prop where
  length : marks.length = text.length + 1
  marked_iff : ∀ n ≤ text.length, marks[n]? = some true ↔ text.take n ∈ starts

variable {text : List UInt8} {marks other : Marks} {starts more : Language}

theorem start_picksOut (text : List UInt8) : (start text).PicksOut text {[]} where
  length := by simp [start]
  marked_iff n bound := by
    rw [Set.mem_singleton_iff, List.take_eq_nil_iff]
    cases n with
    | zero => simp [start]
    | succ n =>
        have inside : n < text.length := bound
        have filled : text ≠ [] := List.ne_nil_of_length_pos (Nat.zero_lt_of_lt inside)
        simp [start, inside, filled]

theorem PicksOut.step (picked : marks.PicksOut text starts) (p : UInt8 → Bool) :
    (marks.step p text).PicksOut text (joined starts (oneByte p)) where
  length := by simp [Marks.step, picked.length]
  marked_iff n bound := by
    cases n with
    | zero => simpa [Marks.step] using nil_notMem_joined_oneByte starts p
    | succ n =>
        have inside : n < text.length := bound
        have known : n < marks.length := by rw [picked.length]; omega
        have before := picked.marked_iff n (Nat.le_of_lt inside)
        rw [List.getElem?_eq_getElem known, Option.some_inj] at before
        rw [List.take_succ_eq_append_getElem inside, append_singleton_mem_joined_oneByte, ← before]
        simp [Marks.step, known, inside]

theorem spread_go_marked_iff (found : Bool) (marks : Marks) (n : Nat) (bound : n < marks.length) :
    (spread.go found marks)[n]? = some true ↔
      found = true ∨ ∃ m ≤ n, marks[m]? = some true := by
  induction marks generalizing found n with
  | nil => exact absurd bound (Nat.not_lt_zero n)
  | cons marked rest ih =>
      cases n with
      | zero => simp [spread.go]
      | succ n =>
          have later := ih (found || marked) n (Nat.lt_of_succ_lt_succ bound)
          rw [spread.go, List.getElem?_cons_succ, later, Bool.or_eq_true, or_assoc]
          apply or_congr_right
          constructor
          · rintro (here | ⟨m, small, there⟩)
            · exact ⟨0, Nat.zero_le _, congrArg some here⟩
            · exact ⟨m + 1, Nat.succ_le_succ small, there⟩
          · rintro ⟨m, small, there⟩
            cases m with
            | zero => exact .inl (Option.some_inj.mp there)
            | succ m => exact .inr ⟨m, Nat.le_of_succ_le_succ small, there⟩

theorem length_spread_go (found : Bool) (marks : Marks) :
    (spread.go found marks).length = marks.length := by
  induction marks generalizing found with
  | nil => rfl
  | cons marked rest ih => rw [spread.go, List.length_cons, ih, List.length_cons]

theorem PicksOut.spread (picked : marks.PicksOut text starts) :
    marks.spread.PicksOut text (joined starts Set.univ) where
  length := (length_spread_go false marks).trans picked.length
  marked_iff n bound := by
    have known : n < marks.length := by rw [picked.length]; omega
    rw [Marks.spread, spread_go_marked_iff false marks n known, mem_joined_univ]
    constructor
    · rintro (impossible | ⟨m, small, marked⟩)
      · exact absurd impossible Bool.false_ne_true
      · refine ⟨text.take m, (picked.marked_iff m (small.trans bound)).mp marked, ?_⟩
        exact List.take_prefix_take_left small
    · rintro ⟨first, member, before⟩
      have small : first.length ≤ n := before.length_le.trans (List.length_take_le n text)
      have same : first = text.take first.length :=
        List.prefix_iff_eq_take.mp (before.trans (List.take_prefix n text))
      refine .inr ⟨first.length, small, (picked.marked_iff _ (small.trans bound)).mpr ?_⟩
      rwa [← same]

theorem PicksOut.either (picked : marks.PicksOut text starts)
    (others : other.PicksOut text more) : (marks.either other).PicksOut text (starts ∪ more) where
  length := by simp [Marks.either, picked.length, others.length]
  marked_iff n bound := by
    have known : n < marks.length := by rw [picked.length]; omega
    have alike : n < other.length := by rw [others.length]; omega
    rw [Set.mem_union, ← picked.marked_iff n bound, ← others.marked_iff n bound]
    simp [Marks.either, known, alike]

theorem PicksOut.cleared (picked : marks.PicksOut text starts) :
    marks.cleared.PicksOut text ∅ where
  length := by simp [Marks.cleared, picked.length]
  marked_iff n _ := by
    refine iff_of_false (fun marked => ?_) (Set.notMem_empty _)
    obtain ⟨_, _, cleared⟩ := List.mem_map.mp (List.mem_of_getElem? marked)
    exact Bool.false_ne_true cleared

theorem PicksOut.descend (picked : marks.PicksOut text starts) :
    (marks.descend text).PicksOut text
      (joined starts ({[]} ∪ joined Set.univ (oneByte (· == slash)))) := by
  rw [joined_union, joined_nil, ← joined_assoc]
  exact picked.either (picked.spread.step _)

theorem PicksOut.isComplete_iff (picked : marks.PicksOut text starts) :
    marks.isComplete = true ↔ text ∈ starts := by
  have whole := picked.marked_iff text.length le_rfl
  rw [List.take_length] at whole
  rw [isComplete, beq_iff_eq, List.getLast?_eq_getElem?, picked.length, Nat.add_sub_cancel, whole]

theorem PicksOut.literal (picked : marks.PicksOut text starts) (s : List UInt8) :
    (s.foldl (fun marks b => marks.step (· == b) text) marks).PicksOut text
      (joined starts {s}) := by
  induction s generalizing marks starts with
  | nil => rwa [joined_nil]
  | cons b s ih =>
      have apart := singleton_joined_singleton [b] s
      rw [List.singleton_append, ← oneByte_beq] at apart
      rw [List.foldl_cons, ← apart, ← joined_assoc]
      exact ih (picked.step _)

end Marks

section Advance

variable {text : List UInt8}

mutual

theorem Token.advance_picksOut (token : Token) {marks : Marks} {starts : Language}
    (picked : marks.PicksOut text starts) :
    (token.advance text marks).PicksOut text (joined starts token.language) := by
  cases token with
  | literal c => exact picked.literal _
  | any => exact picked.step _
  | many => exact picked.spread
  | leadingDirs => exact picked.descend
  | trailingDirs =>
      rw [Token.language, ← joined_assoc]
      exact (picked.step _).spread
  | innerDirs =>
      rw [Token.language, ← joined_assoc]
      exact (picked.step _).descend
  | range negated ranges => exact picked.step _
  | choice branches =>
      rw [Token.language, Token.advance]
      split
      · rwa [joined_nil]
      · exact advanceAny_picksOut branches picked

theorem advanceAny_picksOut (branches : List (List Token)) {marks : Marks}
    {starts : Language} (picked : marks.PicksOut text starts) :
    (advanceAny text branches marks).PicksOut text (joined starts (choiceLanguage branches)) := by
  cases branches with
  | nil =>
      rw [choiceLanguage, joined_empty]
      exact picked.cleared
  | cons branch more =>
      rw [choiceLanguage, advanceAny]
      split
      · exact advanceAny_picksOut more picked
      · rw [joined_union]
        exact (advanceAll_picksOut branch picked).either (advanceAny_picksOut more picked)

theorem advanceAll_picksOut (tokens : List Token) {marks : Marks} {starts : Language}
    (picked : marks.PicksOut text starts) :
    (advanceAll text tokens marks).PicksOut text (joined starts (language tokens)) := by
  cases tokens with
  | nil => rwa [language, joined_nil]
  | cons token more =>
      rw [language, ← joined_assoc]
      exact advanceAll_picksOut more (token.advance_picksOut picked)

end

end Advance

theorem covers_iff (tokens : List Token) (text : List UInt8) :
    covers tokens text = true ↔ text ∈ language tokens := by
  have picked := advanceAll_picksOut tokens (Marks.start_picksOut text)
  rw [nil_joined] at picked
  exact picked.isComplete_iff

theorem matchTokens_iff (tokens : List Token) (path : List UInt8) :
    matchTokens tokens path = true ↔ tokens = [.leadingDirs] ∨
      (path ∈ language tokens ∧ ¬ (byLastComponent tokens = true ∧ leadsUp path = true)) := by
  unfold matchTokens
  split
  · simp
  · next other =>
      have different : tokens ≠ [.leadingDirs] := other
      simp only [different, false_or, Bool.and_eq_true, covers_iff, Bool.not_eq_true']
      simp

end ReleaseDrift.Glob
