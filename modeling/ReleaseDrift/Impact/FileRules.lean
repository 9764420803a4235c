import ReleaseDrift.Config.Basic
import ReleaseDrift.Glob.PatternSet
import ReleaseDrift.Impact.Item
import ReleaseDrift.Usage

/-!
The level of a changed file: a table of rules, of which the first that fits decides.
-/

namespace ReleaseDrift

namespace Reason

def metadata : String := "build or license metadata"
def noise : String := "test, example, docs, or internal path"
def unusedPackage : String := "package not used"
def removed : String := "file removed in used package"
def likelyBreaking : String := "modified model or client file in used package"
def added : String := "new file in used package"
def modified : String := "modified file in used package"

end Reason

/-- The pattern of the files under a directory; a directory without a name has none. -/
def dirPattern (dir : String) : List String :=
  let name := (dir.toList.reverse.dropWhile (· == '/')).reverse
  if name = [] then [] else [String.ofList (name ++ "/**".toList)]

def Config.breakingPatterns (config : Config) : List String :=
  config.impact.breaking ++ dirPattern config.library.modelDir

def Config.classify (config : Config) (usage : Usage) (file : ChangedFile) : Level × String :=
  if Glob.matchesAny config.impact.metadata file.path then (.metadata, Reason.metadata)
  else if Glob.matchesAny config.impact.noise file.path then (.noise, Reason.noise)
  else if !usage.usesPackageOf file.path then (.noise, Reason.unusedPackage)
  else
    match file.status with
    | .removed => (.critical, Reason.removed)
    | .modified =>
        if Glob.matchesAny config.breakingPatterns file.path then (.warning, Reason.likelyBreaking)
        else (.warning, Reason.modified)
    | .added => (.safe, Reason.added)
    | _ => (.warning, Reason.modified)

def Config.classifyFile (config : Config) (usage : Usage) (file : ChangedFile) : ClassifiedFile :=
  let (level, reason) := config.classify usage file
  { file := file.path, status := file.status, level, reason, additions := file.additions,
    deletions := file.deletions }

end ReleaseDrift
