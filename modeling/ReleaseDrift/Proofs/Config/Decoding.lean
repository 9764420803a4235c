import ReleaseDrift.Config.Reader
import ReleaseDrift.Proofs.Toml.Names

/-!
The two decodings of a configuration. They agree on its version, which is looked at first. Only a
document in the supported version is then decoded as a whole.
-/

namespace ReleaseDrift

theorem Toml.Value.settled?_eq_int_iff (value : Value) (n : Int) :
    value.settled? = some (.int n) ↔ value = .int n := by
  cases value with
  | arr items => simp [settled?]
  | table members =>
      constructor
      · intro settled
        exfalso
        unfold settled? at settled
        split at settled
        · simp at settled
        · simp at settled
        · split at settled
          · split at settled
            · split at settled <;> simp at settled
            · simp at settled
          · simp [Option.bind_eq_some_iff] at settled
        · simp_all
      · intro same
        cases same
  | _ => simp [settled?]

namespace Config

def version? (members : Members) : Option Toml.Value := SortedMap.get? members "version"

theorem versionOf?_eq_none_iff (value : Option Toml.Value) :
    versionOf? value = none ↔ value ≠ none ∧ ∀ n, value ≠ some (.int n) := by
  rcases value with _ | value
  · simp [versionOf?]
  · cases value <;> simp [versionOf?]

theorem versionOf?_eq_some_some_iff (value : Option Toml.Value) (n : Int) :
    versionOf? value = some (some n) ↔ value = some (.int n) := by
  rcases value with _ | value
  · simp [versionOf?]
  · cases value <;> simp [versionOf?]

theorem versionOf?_of_settled {written settled : Option Toml.Value}
    (same : settled.map some = written.map (·.settled?)) :
    versionOf? settled = versionOf? written := by
  cases written with
  | none => rw [Option.map_eq_none_iff.mp same]
  | some value =>
      obtain ⟨comesTo, rfl, settles⟩ := Option.map_eq_some_iff.mp same
      change some comesTo = value.settled? at settles
      by_cases number : ∃ n, value = .int n
      · obtain ⟨n, rfl⟩ := number
        rw [(Toml.Value.settled?_eq_int_iff _ n).mpr rfl, Option.some.injEq] at settles
        rw [settles]
      · rw [not_exists] at number
        have noNumber (n : Int) : comesTo ≠ .int n := by
          rintro rfl
          exact number n ((value.settled?_eq_int_iff n).mp settles.symm)
        rw [(versionOf?_eq_none_iff (some value)).mpr (by simpa using number),
          (versionOf?_eq_none_iff (some comesTo)).mpr (by simpa using noNumber)]

theorem decodeVersion?_of_parsed {text : String} {members : Members}
    (parsed : Toml.ofText? text.toList = some members) :
    decodeVersion? text = versionOf? (version? members) := by
  rw [decodeVersion?, parsed, Option.bind_some, version?]

/-- What the whole document comes to has the version that is read from it alone. -/
theorem decodeVersion?_of_decoded {text : String} {members : Members}
    (decoded : members? text = some members) :
    decodeVersion? text = versionOf? (version? members) := by
  obtain ⟨written, parsed, settled⟩ := Option.bind_eq_some_iff.mp decoded
  have same := Toml.get?_settle? (Toml.areDistinct_ofText? parsed) settled "version"
  rw [decodeVersion?_of_parsed parsed]
  exact (versionOf?_of_settled same).symm

variable {explain : Explanation} {text : String}

theorem checkVersion_eq_ok_iff :
    checkVersion explain text = .ok () ↔ decodeVersion? text = some (some supportedVersion) := by
  rw [checkVersion]
  rcases decodeVersion? text with _ | _ | n
  · simp
  · simp
  · by_cases supported : n = supportedVersion <;> simp [supported]

theorem checkVersion_of_supported (version : decodeVersion? text = some (some supportedVersion)) :
    checkVersion explain text = .ok () :=
  checkVersion_eq_ok_iff.mpr version

theorem ofText_of_supported (version : decodeVersion? text = some (some supportedVersion))
    {members : Members} (decoded : members? text = some members) :
    ofText explain text =
      (unknownOf members,
        (impactOf (sectionOf members "impact")).map fun impact =>
          { library := libraryOf (sectionOf members "library"), impact }) := by
  rw [ofText, checkVersion_of_supported version, decoded]

theorem parse_snd (path : String) :
    (parse path text explain).2 = (ofText explain text).2.mapError .config := rfl

theorem parse_of_versionFault {fault : ConfigFault}
    (checked : checkVersion explain text = .error fault) (path : String) :
    parse path text explain = ([], .error (.config fault)) := by
  rw [parse, ofText, checked]
  rfl

theorem parse_of_undecoded (version : decodeVersion? text = some (some supportedVersion))
    (undecoded : members? text = none) (path : String) :
    parse path text explain = ([], .error (.config (.stated (explain .whole text)))) := by
  rw [parse, ofText, checkVersion_of_supported version, undecoded]
  rfl

end Config

end ReleaseDrift
