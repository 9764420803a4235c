import ReleaseDrift.Proofs.Config.Threshold

/-!
What a configuration depends on. Beside the version there are six settings, each of which is
read from its own key alone, and a version that is not right is reported before any of them is
looked at. Whatever else a document holds changes nothing, as long as it can be decoded.
-/

namespace ReleaseDrift

namespace Config

inductive Setting where
  | modelDir
  | schemaNamespace
  | metadata
  | noise
  | breaking
  | failOn
  deriving Repr, DecidableEq

inductive SettingValue where
  | text (text : String)
  | texts (texts : List String)
  | level (level : Level)
  deriving Repr, DecidableEq

namespace Setting

def scope : Setting → String
  | modelDir | schemaNamespace => "library"
  | metadata | noise | breaking | failOn => "impact"

def key : Setting → String
  | modelDir => "model_dir"
  | schemaNamespace => "schema_namespace"
  | metadata => "metadata"
  | noise => "noise"
  | breaking => "breaking"
  | failOn => "fail_on"

def value? (setting : Setting) (members : Members) : Option Toml.Value :=
  SortedMap.get? (sectionOf members setting.scope) setting.key

def texts? (value : Toml.Value) : Option (List String) :=
  value.arr?.map fun items => items.filterMap (·.str?)

/-- What a setting is when something stands under its key. What does not fit counts as missing. -/
def read (setting : Setting) (value : Option Toml.Value) : SettingValue :=
  match setting with
  | modelDir => .text ((value.bind (·.str?)).getD ({} : LibrarySettings).modelDir)
  | schemaNamespace => .text ((value.bind (·.str?)).getD ({} : LibrarySettings).schemaNamespace)
  | metadata => .texts ((value.bind texts?).getD ({} : ImpactSettings).metadata)
  | noise => .texts ((value.bind texts?).getD ({} : ImpactSettings).noise)
  | breaking => .texts ((value.bind texts?).getD ({} : ImpactSettings).breaking)
  | failOn => .level (((value.bind (·.str?)).bind Level.ofName?).getD ({} : ImpactSettings).failOn)

end Setting

def get (config : Config) : Setting → SettingValue
  | .modelDir => .text config.library.modelDir
  | .schemaNamespace => .text config.library.schemaNamespace
  | .metadata => .texts config.impact.metadata
  | .noise => .texts config.impact.noise
  | .breaking => .texts config.impact.breaking
  | .failOn => .level config.impact.failOn

/-- Two documents have the same version, and the same value or none under the key of each
    setting. -/
structure Agree (members others : Members) : Prop where
  version : version? members = version? others
  settings : ∀ setting : Setting, setting.value? members = setting.value? others

theorem textsOr_eq (default : List String) (members : Members) (name : String) :
    textsOr default members name =
      ((SortedMap.get? members name).bind Setting.texts?).getD default := by
  rw [textsOr]
  cases SortedMap.get? members name with
  | none => rfl
  | some value => cases value <;> rfl

theorem failOnOf_eq_ok {members : Members} {level : Level} (read : failOnOf members = .ok level) :
    level = (((SortedMap.get? members "fail_on").bind (·.str?)).bind Level.ofName?).getD
      ({} : ImpactSettings).failOn := by
  rw [failOnOf] at read
  split at read
  · rename_i missing
    cases read
    rw [missing]
    rfl
  · rename_i name given
    split at read
    · rename_i named found
      cases read
      rw [given, Option.bind_some, found, Option.getD_some]
    · cases read

section Decoded

variable {explain : Explanation} {path text : String} {members : Members}
  (decoded : members? text = some members)

include decoded

theorem version?_of_parse {config : Config} (parsed : (parse path text explain).2 = .ok config) :
    version? members = some (.int supportedVersion) := by
  rw [← versionOf?_eq_some_some_iff, ← decodeVersion?_of_decoded decoded]
  cases checked : checkVersion explain text with
  | error fault =>
      rw [parse_of_versionFault checked] at parsed
      cases parsed
  | ok _ => exact checkVersion_eq_ok_iff.mp checked

theorem get_of_parse {config : Config} (parsed : (parse path text explain).2 = .ok config)
    (setting : Setting) : config.get setting = setting.read (setting.value? members) := by
  have version := version?_of_parse decoded parsed
  rw [parse_snd, ofText_of_version explain decoded version, impactOf] at parsed
  cases threshold : failOnOf (sectionOf members "impact") with
  | error fault =>
      rw [threshold] at parsed
      cases parsed
  | ok level =>
      rw [threshold] at parsed
      cases parsed
      cases setting with
      | modelDir => rfl
      | schemaNamespace => rfl
      | metadata => exact congrArg SettingValue.texts (textsOr_eq _ _ _)
      | noise => exact congrArg SettingValue.texts (textsOr_eq _ _ _)
      | breaking => exact congrArg SettingValue.texts (textsOr_eq _ _ _)
      | failOn => exact congrArg SettingValue.level (failOnOf_eq_ok threshold)

end Decoded

theorem sections_congr {members others : Members} (agree : Agree members others) :
    impactOf (sectionOf members "impact") = impactOf (sectionOf others "impact") ∧
      libraryOf (sectionOf members "library") = libraryOf (sectionOf others "library") := by
  have value (setting : Setting) :
      SortedMap.get? (sectionOf members setting.scope) setting.key =
        SortedMap.get? (sectionOf others setting.scope) setting.key := agree.settings setting
  constructor
  · have metadata := value .metadata
    have noise := value .noise
    have breaking := value .breaking
    have failOn := value .failOn
    simp only [Setting.scope, Setting.key] at metadata noise breaking failOn
    simp only [impactOf, textsOr, failOnOf, metadata, noise, breaking, failOn]
  · have modelDir := value .modelDir
    have schemaNamespace := value .schemaNamespace
    simp only [Setting.scope, Setting.key] at modelDir schemaNamespace
    simp only [libraryOf, textOr, modelDir, schemaNamespace]

section Version

variable (path : String) (explain : Explanation) {text : String} {members : Members}
  (parsed : Toml.ofText? text.toList = some members)

include parsed

theorem parse_of_missingVersion (missing : version? members = none) :
    parse path text explain = ([], .error (.config .missingVersion)) := by
  refine parse_of_versionFault ?_ path
  rw [checkVersion, decodeVersion?_of_parsed parsed, missing, versionOf?]

theorem parse_of_unsupported {n : Int} (given : version? members = some (.int n))
    (unsupported : n ≠ supportedVersion) :
    parse path text explain = ([], .error (.config (.unsupportedVersion n))) := by
  refine parse_of_versionFault ?_ path
  rw [checkVersion, decodeVersion?_of_parsed parsed, given, versionOf?]
  exact if_neg unsupported

theorem parse_of_noNumber (given : version? members ≠ none)
    (noNumber : ∀ n, version? members ≠ some (.int n)) :
    parse path text explain = ([], .error (.config (.stated (explain .version text)))) := by
  refine parse_of_versionFault ?_ path
  rw [checkVersion, decodeVersion?_of_parsed parsed,
    (versionOf?_eq_none_iff _).mpr ⟨given, noNumber⟩]

theorem parse_of_undecodedWhole (given : version? members = some (.int supportedVersion))
    (undecoded : Toml.settle? members = none) :
    parse path text explain = ([], .error (.config (.stated (explain .whole text)))) := by
  refine parse_of_undecoded ?_ ?_ path
  · rw [decodeVersion?_of_parsed parsed, given, versionOf?]
  · rw [members?, parsed, Option.bind_some, undecoded]

end Version

structure Decodes (text : String) (members : Members) : Prop where
  version : (decodeVersion? text).isSome = true
  whole : members? text = some members

theorem parse_congr (path : String) (explain : Explanation) {text other : String}
    {members others : Members} (decodes : Decodes text members)
    (decodesOther : Decodes other others) (agree : Agree members others) :
    (parse path text explain).2 = (parse path other explain).2 := by
  have sameVersion : decodeVersion? text = decodeVersion? other := by
    rw [decodeVersion?_of_decoded decodes.whole, decodeVersion?_of_decoded decodesOther.whole,
      agree.version]
  obtain ⟨version, decoded⟩ := Option.isSome_iff_exists.mp decodes.version
  have sameCheck : checkVersion explain text = checkVersion explain other := by
    rw [checkVersion, checkVersion, ← sameVersion, decoded]
    cases version <;> rfl
  cases checked : checkVersion explain text with
  | error fault =>
      rw [parse_of_versionFault checked, parse_of_versionFault (sameCheck ▸ checked)]
  | ok _ =>
      have supported := checkVersion_eq_ok_iff.mp checked
      obtain ⟨impact, library⟩ := sections_congr agree
      rw [parse_snd, parse_snd, ofText_of_supported supported decodes.whole,
        ofText_of_supported (sameVersion ▸ supported) decodesOther.whole, impact, library]

/-- What a configuration depends on, and what it does not. -/
structure DependsOnSettings (path : String) (explain : Explanation) : Prop where
  same : ∀ {text other : String} {members others : Members}, Decodes text members →
    Decodes other others → Agree members others →
      (parse path text explain).2 = (parse path other explain).2
  reads : ∀ {text : String} {members : Members}, members? text = some members →
    ∀ {config : Config}, (parse path text explain).2 = .ok config →
      ∀ setting : Setting, config.get setting = setting.read (setting.value? members)
  missing : ∀ {text : String} {members : Members}, members? text = some members →
    ∀ {config : Config}, (parse path text explain).2 = .ok config →
      ∀ setting : Setting, setting.value? members = none →
        config.get setting = ({} : Config).get setting
  /-- The version goes before everything else, also where the whole does not decode. -/
  missingVersion : ∀ {text : String} {members : Members},
    Toml.ofText? text.toList = some members → version? members = none →
      parse path text explain = ([], .error (.config .missingVersion))
  unsupported : ∀ {text : String} {members : Members},
    Toml.ofText? text.toList = some members → ∀ {n : Int}, version? members = some (.int n) →
      n ≠ supportedVersion →
        parse path text explain = ([], .error (.config (.unsupportedVersion n)))
  noNumber : ∀ {text : String} {members : Members},
    Toml.ofText? text.toList = some members → version? members ≠ none →
      (∀ n, version? members ≠ some (.int n)) →
        parse path text explain = ([], .error (.config (.stated (explain .version text))))
  undecoded : ∀ {text : String} {members : Members},
    Toml.ofText? text.toList = some members →
      version? members = some (.int supportedVersion) → Toml.settle? members = none →
        parse path text explain = ([], .error (.config (.stated (explain .whole text))))

theorem parse_dependsOnSettings (path : String) (explain : Explanation) :
    DependsOnSettings path explain where
  same := parse_congr path explain
  reads decoded _ parsed := get_of_parse decoded parsed
  missing := by
    intro text members decoded config parsed setting missing
    rw [get_of_parse decoded parsed, missing]
    cases setting <;> rfl
  missingVersion := parse_of_missingVersion path explain
  unsupported := parse_of_unsupported path explain
  noNumber := parse_of_noNumber path explain
  undecoded := parse_of_undecodedWhole path explain

theorem parse_dependsOnSettings_of_owner :
    let text := "version = 1\n[library]\nmodel_dir = \"api/\"\n"
    let other := "owner = \"me\"\nversion = 1\n[library]\nmodels = []\nmodel_dir = \"api/\"\n"
    ∃ members others, Decodes text members ∧ Decodes other others ∧ Agree members others ∧
      (parse defaultPath text).2 = (parse defaultPath other).2 := by
  intro text other
  have written : ∀ document ∈ [text, other], (decodeVersion? document).isSome = true ∧
      ((members? document).bind version?).bind (·.int?) = some 1 ∧
      ((members? document).bind Setting.modelDir.value?).bind (·.str?) = some "api/" ∧
      ∀ setting ∈ [Setting.schemaNamespace, .metadata, .noise, .breaking, .failOn],
        (members? document).bind setting.value? = none := by
    decide +kernel
  have read (document : String) (given : document ∈ [text, other]) :
      ∃ members, Decodes document members ∧ version? members = some (.int 1) ∧
        ∀ setting : Setting, setting.value? members =
          if setting = .modelDir then some (.str "api/") else none := by
    obtain ⟨decodes, version, modelDir, absent⟩ := written document given
    rw [Toml.bind_int?_eq_some_iff] at version
    rw [Toml.bind_str?_eq_some_iff] at modelDir
    obtain ⟨members, decoded, version⟩ := Option.bind_eq_some_iff.mp version
    simp only [decoded, Option.bind_some] at modelDir absent
    refine ⟨members, ⟨decodes, decoded⟩, version, fun setting => ?_⟩
    cases setting with
    | modelDir => exact modelDir
    | _ => exact absent _ (by decide)
  obtain ⟨members, decodes, version, settings⟩ := read text (by simp)
  obtain ⟨others, decodesOther, otherVersion, otherSettings⟩ := read other (by simp)
  have agree : Agree members others :=
    ⟨version.trans otherVersion.symm, fun setting =>
      (settings setting).trans (otherSettings setting).symm⟩
  exact ⟨members, others, decodes, decodesOther, agree,
    (parse_dependsOnSettings defaultPath unexplained).same decodes decodesOther agree⟩

end Config

end ReleaseDrift
