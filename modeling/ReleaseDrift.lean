import ReleaseDrift.Files.Tree
import ReleaseDrift.Main
import ReleaseDrift.Proofs.Diff.Attribution
import ReleaseDrift.Proofs.Diff.Balance
import ReleaseDrift.Proofs.Diff.Locality
import ReleaseDrift.Proofs.Schema.Flatten
import ReleaseDrift.Proofs.Schema.NullableSpelling
import ReleaseDrift.Proofs.Schema.Reconstruction
import ReleaseDrift.Proofs.Verdict
import ReleaseDrift.Proofs.Widening
import ReleaseDrift.Proofs.Schema.Accounting
import ReleaseDrift.Proofs.Schema.Mirror
import ReleaseDrift.Proofs.Diff.Reversal
import ReleaseDrift.Proofs.Text.WordChar
import ReleaseDrift.Proofs.Declaration.Rendering
import ReleaseDrift.Proofs.Diff.RoundTrip
import ReleaseDrift.Proofs.Report.Groups
import ReleaseDrift.Proofs.Report.Merge
import ReleaseDrift.Proofs.Account
import ReleaseDrift.Proofs.Schema.Verdict
import ReleaseDrift.Proofs.Glob.DirPattern
import ReleaseDrift.Proofs.ModelDir
import ReleaseDrift.Proofs.SetAside
import ReleaseDrift.Proofs.ModelName
import ReleaseDrift.Proofs.Declaration.Hiding
import ReleaseDrift.Proofs.Schema.Composition
import ReleaseDrift.Proofs.EnumValues.Layout
import ReleaseDrift.Proofs.EnumValues.Symmetry
import ReleaseDrift.Proofs.Diff.Truncation
import ReleaseDrift.Proofs.Report.Summary
import ReleaseDrift.Proofs.Config.Threshold
import ReleaseDrift.Proofs.Declaration.Signature
import ReleaseDrift.Proofs.VersionPair
import ReleaseDrift.Proofs.Toml.Names
import ReleaseDrift.Proofs.Config.Settings
import ReleaseDrift.Proofs.Json.Fields
import ReleaseDrift.Proofs.Json.Scalar
import ReleaseDrift.Proofs.Json.RoundTrip
import ReleaseDrift.Proofs.Comparison.Payload
import ReleaseDrift.Proofs.PackageDir
import ReleaseDrift.Proofs.UsageFile
import ReleaseDrift.Proofs.Diff.FileHeader
import ReleaseDrift.Proofs.Casing
import ReleaseDrift.Proofs.Report.Terminal
import ReleaseDrift.Proofs.Report.Colour
import ReleaseDrift.Proofs.Report.Formatter
import ReleaseDrift.Proofs.Report.Listing
import ReleaseDrift.Proofs.Report.Layout
