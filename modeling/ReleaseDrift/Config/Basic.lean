import ReleaseDrift.Impact.Level

/-!
Settings of a run: where the library keeps its models, and how files are classified.
-/

namespace ReleaseDrift

structure LibrarySettings where
  modelDir : String := "models/"
  schemaNamespace : String := "microsoft.graph."
  deriving Repr, DecidableEq

structure ImpactSettings where
  metadata : List String :=
    ["**/go.mod", "**/go.sum", "**/LICENSE*", "**/CHANGELOG*", "**/CODEOWNERS", "**/.gitignore",
      "**/.gitattributes", "**/*.lock"]
  noise : List String :=
    ["**/*_test.go", "**/test/**", "**/tests/**", "**/testdata/**", "**/examples/**",
      "**/docs/**", "**/*.md", ".github/**", "**/internal/**"]
  breaking : List String :=
    ["**/*_client.go", "**/*_request_builder.go", "**/*interface*.go", "**/*model*.go",
      "**/*types*.go"]
  failOn : Level := .critical
  deriving Repr, DecidableEq

structure Config where
  version : Int := 1
  library : LibrarySettings := {}
  impact : ImpactSettings := {}
  deriving Repr, DecidableEq

end ReleaseDrift
