import ReleaseDrift.Config.Basic
import ReleaseDrift.Failure
import ReleaseDrift.Toml.Reader
import ReleaseDrift.Toml.Settled

/-!
Reading settings. A setting of the wrong type counts as not given; only the version and the name
of a level have to be right. Fields that are not known are named and ignored.
-/

namespace ReleaseDrift

structure UnknownField where
  path : String
  field : String
  deriving Repr, DecidableEq

def UnknownField.message (unknown : UnknownField) : String :=
  unknown.path ++ ": unrecognized field \x60" ++ unknown.field ++ "\x60 (ignored)"

namespace Config

abbrev Members := List (String × Toml.Value)

def unknownFields (scope : String) (known : List String) (members : Members) : List String :=
  ((members.map Prod.fst).filter fun name => !known.contains name).map (scope ++ ·)

def sectionOf (members : Members) (name : String) : Members :=
  ((SortedMap.get? members name).bind (·.table?)).getD []

def textOr (default : String) (members : Members) (name : String) : String :=
  ((SortedMap.get? members name).bind (·.str?)).getD default

def textsOr (default : List String) (members : Members) (name : String) : List String :=
  match (SortedMap.get? members name).bind (·.arr?) with
  | some items => items.filterMap (·.str?)
  | none => default

def libraryOf (members : Members) : LibrarySettings :=
  let default : LibrarySettings := {}
  { modelDir := textOr default.modelDir members "model_dir"
    schemaNamespace := textOr default.schemaNamespace members "schema_namespace" }

def failOnOf (members : Members) : Except ConfigFault Level :=
  match (SortedMap.get? members "fail_on").bind (·.str?) with
  | none => .ok ({} : ImpactSettings).failOn
  | some name =>
      match Level.ofName? name with
      | some level => .ok level
      | none => .error (.unknownLevel name)

def impactOf (members : Members) : Except ConfigFault ImpactSettings := do
  let default : ImpactSettings := {}
  return { metadata := textsOr default.metadata members "metadata"
           noise := textsOr default.noise members "noise"
           breaking := textsOr default.breaking members "breaking"
           failOn := ← failOnOf members }

def unknownOf (members : Members) : List String :=
  unknownFields "" ["version", "library", "impact"] members ++
    unknownFields "library." ["model_dir", "schema_namespace"] (sectionOf members "library") ++
    unknownFields "impact." ["metadata", "noise", "breaking", "fail_on"]
      (sectionOf members "impact")

/-- A document is decoded twice: for its version alone, and then as a whole. -/
inductive Decoding where
  | version
  | whole
  deriving Repr, DecidableEq

abbrev Explanation := Decoding → String → String

def unexplained : Explanation := fun _ _ => ConfigFault.malformed.message

def versionOf? : Option Toml.Value → Option (Option Int)
  | none => some none
  | some (.int n) => some (some n)
  | some _ => none

/-- The version of a document. Nothing else of it is decoded, so that it may be wrong. -/
def decodeVersion? (text : String) : Option (Option Int) :=
  (Toml.ofText? text.toList).bind fun members => versionOf? (SortedMap.get? members "version")

def members? (text : String) : Option Members := (Toml.ofText? text.toList).bind Toml.settle?

def checkVersion (explain : Explanation) (text : String) : Except ConfigFault Unit :=
  match decodeVersion? text with
  | none => .error (.stated (explain .version text))
  | some none => .error .missingVersion
  | some (some n) => if n = supportedVersion then .ok () else .error (.unsupportedVersion n)

def ofText (explain : Explanation) (text : String) : List String × Except ConfigFault Config :=
  match checkVersion explain text with
  | .error fault => ([], .error fault)
  | .ok () =>
      match members? text with
      | none => ([], .error (.stated (explain .whole text)))
      | some members =>
          (unknownOf members,
            (impactOf (sectionOf members "impact")).map fun impact =>
              { library := libraryOf (sectionOf members "library"), impact })

def parse (path text : String) (explain : Explanation := unexplained) :
    List UnknownField × Except Failure Config :=
  let (unknown, result) := ofText explain text
  (unknown.map (⟨path, ·⟩), result.mapError .config)

def defaultPath : String := "sdkdrift.toml"

def loadFile (files : Files) (path : String) (explain : Explanation := unexplained) :
    List UnknownField × Except Failure Config :=
  match (files path).text with
  | .error fault => ([], .error (.file path fault))
  | .ok text => parse path text explain

/-- Settings from the named file, else from the default file if there is one, else the defaults. -/
def load (files : Files) (path : Option String) (explain : Explanation := unexplained) :
    List UnknownField × Except Failure Config :=
  match path with
  | some path => loadFile files path explain
  | none =>
      if (files defaultPath).isFile then loadFile files defaultPath explain else ([], .ok {})

end Config

end ReleaseDrift
