import ReleaseDrift.Json.Fields
import ReleaseDrift.ModelName

/-!
What a consumer of the library is known to use. An index without any entry says nothing, and
then everything counts as used; the same holds for its packages alone.
-/

namespace ReleaseDrift

open Json (Written)

structure Usage where
  models : List String := []
  files : List String := []
  packages : List String := []
  deriving Repr, DecidableEq

namespace Usage

open Text

def dropDots : List Char → List Char
  | '.' :: '/' :: rest => dropDots rest
  | s => s

def normalizeDir (dir : String) : String :=
  String.ofList ((dropDots dir.toList).reverse.dropWhile (· == '/')).reverse

def ofModels (models : List String) : Usage := { models := SortedSet.ofList models }

def withFiles (usage : Usage) (files : List String) : Usage :=
  { usage with files := SortedSet.insertAll files usage.files }

def withPackages (usage : Usage) (packages : List String) : Usage :=
  { usage with packages := SortedSet.insertAll (packages.map normalizeDir) usage.packages }

def isEmpty (usage : Usage) : Bool :=
  usage.models.isEmpty && usage.files.isEmpty && usage.packages.isEmpty

def usesModel (usage : Usage) (model path : String) : Bool :=
  usage.models.contains model || usage.files.contains path

def usesSchema (usage : Usage) (schemaName : String) : Bool :=
  usage.models.contains (ModelName.ofSchema schemaName)

def usesPackageOf (usage : Usage) (path : String) : Bool :=
  usage.packages.isEmpty ||
    usage.packages.any fun package => normalizeDir package == ModelName.parentDir path

/-- A model that is indexed, or any model when nothing is. -/
def relevant (usage : Usage) (model path : String) : Bool :=
  usage.isEmpty || usage.usesModel model path

def relevantSchema (usage : Usage) (schemaName : String) : Bool :=
  usage.isEmpty || usage.usesSchema schemaName

def ofWritten? (written : Written) : Option Usage :=
  let known := ["models", "files", "packages"]
  let clean := match written with
    | .obj members => members.all fun member => member.1.any (known.contains ·)
    | _ => true
  if !clean then none
  else
    match written.fields? (known.map fun name => [name]) with
    | some [models, files, packages] => do
        let list : Option Written → Option (List String)
          | none => some []
          | some value => value.texts?
        let models ← list models
        let files ← list files
        let packages ← list packages
        return { models := SortedSet.ofList models, files := SortedSet.ofList files,
                 packages := SortedSet.ofList packages }
    | _ => none

def ofFile? (written : Written) : Option Usage :=
  match ofWritten? written with
  | some index => some ((ofModels index.models).withFiles index.files |>.withPackages index.packages)
  | none => written.texts?.map ofModels

def toJson (usage : Usage) : Json :=
  .obj [("models", .arr (usage.models.map .str)), ("files", .arr (usage.files.map .str)),
    ("packages", .arr (usage.packages.map .str))]

end Usage

end ReleaseDrift
