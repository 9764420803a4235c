import ReleaseDrift.Proofs.Config.Decoding
import ReleaseDrift.Proofs.Report.Threshold

/-!
The threshold that a configuration sets. A text has to be the name of a level. Whatever else
stands under the key counts as no threshold at all.
-/

namespace ReleaseDrift

namespace Level

theorem ofName?_eq_some_iff (name : String) (level : Level) :
    ofName? name = some level ↔ level.name = name := by
  constructor
  · intro found
    rw [ofName?] at found
    have passes := List.find?_some found
    exact beq_iff_eq.mp passes
  · rintro rfl
    cases level <;> rfl

theorem ofName?_eq_none_iff (name : String) :
    ofName? name = none ↔ ∀ level : Level, level.name ≠ name := by
  simp only [Option.eq_none_iff_forall_ne_some, ne_eq, ofName?_eq_some_iff]

theorem name_inj {level other : Level} : level.name = other.name ↔ level = other := by
  constructor
  · intro same
    have found := (ofName?_eq_some_iff other.name level).mpr same
    rw [(ofName?_eq_some_iff other.name other).mpr rfl] at found
    exact (Option.some.inj found).symm
  · rintro rfl
    rfl

end Level

theorem Toml.bind_str?_eq_some_iff (value : Option Value) (text : String) :
    value.bind (·.str?) = some text ↔ value = some (.str text) := by
  rcases value with _ | value
  · simp
  · cases value <;> simp [Value.str?]

theorem Toml.bind_int?_eq_some_iff (value : Option Value) (n : Int) :
    value.bind (·.int?) = some n ↔ value = some (.int n) := by
  rcases value with _ | value
  · simp
  · cases value <;> simp [Value.int?]

namespace Config

def threshold? (members : Members) : Option Toml.Value :=
  SortedMap.get? (sectionOf members "impact") "fail_on"

section Threshold

variable {members : Members}

theorem failOnOf_of_level {level : Level}
    (given : threshold? members = some (.str level.name)) :
    failOnOf (sectionOf members "impact") = .ok level := by
  have read := (Toml.bind_str?_eq_some_iff _ _).mpr given
  have named := (Level.ofName?_eq_some_iff level.name level).mpr rfl
  rw [threshold?] at read
  simp only [failOnOf, read, named]

theorem failOnOf_of_unknown {name : String} (given : threshold? members = some (.str name))
    (unknown : ∀ level : Level, level.name ≠ name) :
    failOnOf (sectionOf members "impact") = .error (.unknownLevel name) := by
  have read := (Toml.bind_str?_eq_some_iff _ _).mpr given
  have unnamed := (Level.ofName?_eq_none_iff name).mpr unknown
  rw [threshold?] at read
  simp only [failOnOf, read, unnamed]

theorem failOnOf_of_noText (noText : ∀ name, threshold? members ≠ some (.str name)) :
    failOnOf (sectionOf members "impact") = .ok .critical := by
  have unread : (threshold? members).bind (·.str?) = none := by
    rw [Option.eq_none_iff_forall_ne_some]
    intro name read
    exact noText name ((Toml.bind_str?_eq_some_iff _ name).mp read)
  rw [threshold?] at unread
  simp only [failOnOf, unread]

/-- A threshold is a level by its name, a text that names none, or no text. -/
theorem failOnOf_cases (members : Members) :
    (∃ level : Level, threshold? members = some (.str level.name) ∧
      failOnOf (sectionOf members "impact") = .ok level) ∨
    (∃ name, threshold? members = some (.str name) ∧ (∀ level : Level, level.name ≠ name) ∧
      failOnOf (sectionOf members "impact") = .error (.unknownLevel name)) ∨
    (∀ name, threshold? members ≠ some (.str name)) ∧
      failOnOf (sectionOf members "impact") = .ok .critical := by
  by_cases text : ∃ name, threshold? members = some (.str name)
  · obtain ⟨name, given⟩ := text
    cases named : Level.ofName? name with
    | none =>
        have unknown := (Level.ofName?_eq_none_iff name).mp named
        exact Or.inr (Or.inl ⟨name, given, unknown, failOnOf_of_unknown given unknown⟩)
    | some level =>
        rw [← (Level.ofName?_eq_some_iff name level).mp named] at given
        exact Or.inl ⟨level, given, failOnOf_of_level given⟩
  · rw [not_exists] at text
    exact Or.inr (Or.inr ⟨text, failOnOf_of_noText text⟩)

end Threshold

section Decoded

variable {text : String} {members : Members} (path : String) (explain : Explanation)
  (decoded : members? text = some members)
  (version : version? members = some (.int supportedVersion))

include decoded version

theorem ofText_of_version :
    (ofText explain text).2 = (impactOf (sectionOf members "impact")).map fun impact =>
      { library := libraryOf (sectionOf members "library"), impact } := by
  have supported : decodeVersion? text = some (some supportedVersion) := by
    rw [decodeVersion?_of_decoded decoded, version, versionOf?]
  rw [ofText_of_supported supported decoded]

theorem parse_of_level {level : Level}
    (read : failOnOf (sectionOf members "impact") = .ok level) :
    ∃ config, (parse path text explain).2 = .ok config ∧ config.impact.failOn = level := by
  rw [parse_snd, ofText_of_version explain decoded version, impactOf, read]
  exact ⟨_, rfl, rfl⟩

theorem parse_of_fault {fault : ConfigFault}
    (read : failOnOf (sectionOf members "impact") = .error fault) :
    (parse path text explain).2 = .error (.config fault) := by
  rw [parse_snd, ofText_of_version explain decoded version, impactOf, read]
  rfl

/-- What becomes of the threshold that a decoded configuration sets: the name of a level is
    that level, and another text is refused. A value that is no text counts as missing, and the
    threshold is then the default. -/
theorem parse_threshold :
    (∀ level, (∃ config, (parse path text explain).2 = .ok config ∧ config.impact.failOn = level) ↔
      threshold? members = some (.str level.name) ∨
        level = .critical ∧ ∀ name, threshold? members ≠ some (.str name)) ∧
    ∀ failure, (parse path text explain).2 = .error failure ↔
      ∃ name, threshold? members = some (.str name) ∧ (∀ level : Level, level.name ≠ name) ∧
        failure = .config (.unknownLevel name) := by
  rcases failOnOf_cases members with ⟨level, given, read⟩ | ⟨name, given, unknown, read⟩ |
    ⟨noText, read⟩
  · obtain ⟨config, parsed, threshold⟩ := parse_of_level path explain decoded version read
    rw [parsed, given]
    constructor
    · intro other
      simp [threshold, Level.name_inj]
    · intro failure
      simp [Level.name_inj]
  · rw [parse_of_fault path explain decoded version read, given]
    constructor
    · intro level
      simp [Ne.symm (unknown level)]
    · intro failure
      constructor
      · intro same
        cases same
        exact ⟨name, rfl, unknown, rfl⟩
      · rintro ⟨other, same, _, rfl⟩
        cases same
        rfl
  · obtain ⟨config, parsed, threshold⟩ := parse_of_level path explain decoded version read
    rw [parsed]
    constructor
    · intro level
      simp [threshold, noText, eq_comm]
    · intro failure
      simp [noText]

end Decoded

theorem parse_threshold_of_unknown_level :
    ∃ members, members? "version = 1\n[impact]\nfail_on = \"fatal\"\n" = some members ∧
      version? members = some (.int 1) ∧ threshold? members = some (.str "fatal") ∧
      (parse defaultPath "version = 1\n[impact]\nfail_on = \"fatal\"\n").2 =
        .error (.config (.unknownLevel "fatal")) := by
  have versioned : ((members? "version = 1\n[impact]\nfail_on = \"fatal\"\n").bind version?).bind
      (·.int?) = some 1 := by decide +kernel
  have given : ((members? "version = 1\n[impact]\nfail_on = \"fatal\"\n").bind threshold?).bind
      (·.str?) = some "fatal" := by decide +kernel
  rw [Toml.bind_int?_eq_some_iff] at versioned
  rw [Toml.bind_str?_eq_some_iff] at given
  obtain ⟨members, decoded, version⟩ := Option.bind_eq_some_iff.mp versioned
  rw [decoded, Option.bind_some] at given
  have unknown : ∀ level : Level, level.name ≠ "fatal" := by
    intro level
    cases level <;> decide
  exact ⟨members, decoded, version, given,
    ((parse_threshold defaultPath unexplained decoded version).2 _).mpr
      ⟨"fatal", given, unknown, rfl⟩⟩

/-- A level given by a number is taken for none: the run fails from the default level on, and
    nothing says so. -/
theorem integer_threshold_replaced :
    ∃ members, members? "version = 1\n[impact]\nfail_on = 5\n" = some members ∧
      version? members = some (.int 1) ∧ threshold? members = some (.int 5) ∧
      (parse defaultPath "version = 1\n[impact]\nfail_on = 5\n").1 = [] ∧
      (parse defaultPath "version = 1\n[impact]\nfail_on = 5\n").2.toOption = some {} := by
  have versioned : ((members? "version = 1\n[impact]\nfail_on = 5\n").bind version?).bind
      (·.int?) = some 1 := by decide +kernel
  have given : ((members? "version = 1\n[impact]\nfail_on = 5\n").bind threshold?).bind
      (·.int?) = some 5 := by decide +kernel
  rw [Toml.bind_int?_eq_some_iff] at versioned given
  obtain ⟨members, decoded, version⟩ := Option.bind_eq_some_iff.mp versioned
  rw [decoded, Option.bind_some] at given
  exact ⟨members, decoded, version, given, by decide +kernel, by decide +kernel⟩

end Config

end ReleaseDrift
