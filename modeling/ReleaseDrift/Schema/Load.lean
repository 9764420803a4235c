import ReleaseDrift.Failure
import ReleaseDrift.ModelName
import ReleaseDrift.Schema.Document
import ReleaseDrift.Yaml.Value

/-!
Reading schema documents. A file with a name for YAML is read as YAML; any other is read as JSON
if it can be, else as YAML.
-/

namespace ReleaseDrift.SchemaDocument

def lowerAscii (c : Char) : Char :=
  if 'A' ≤ c ∧ c ≤ 'Z' then Char.ofNat (c.toNat + 32) else c

def isYamlName (path : String) : Bool :=
  match ((ModelName.fileName? path.toList).bind ModelName.extension?).map (·.map lowerAscii) with
  | some ending => ending == "yaml".toList || ending == "yml".toList
  | none => false

def valueOfText? (path text : String) : Option Json :=
  if isYamlName path then Yaml.ofText? text.toList
  else Json.ofText? text.toList <|> Yaml.ofText? text.toList

def ofText (path text : String) : Except DocumentFault SchemaDocument :=
  match valueOfText? path text with
  | none => .error .malformed
  | some (.obj members) => .ok (ofJson (.obj members))
  | some _ => .error .notSchemas

def load (files : Files) (path : String) : Except Failure SchemaDocument :=
  match (files path).text with
  | .error fault => .error (.file path fault)
  | .ok text => (ofText path text).mapError (.parse path)

end ReleaseDrift.SchemaDocument
