import AliasBinding.Main
import AliasBinding.FileTree.Change
import AliasBinding.Proofs.Generation.Filter
import AliasBinding.Proofs.Generation.Protocol
import AliasBinding.Proofs.Verification.Problems
import AliasBinding.Proofs.Verification.Coverage
import AliasBinding.Proofs.Manifest.Presentation
import AliasBinding.Proofs.Text.SingleLine
import AliasBinding.Proofs.Declaration.Layout
import AliasBinding.Proofs.Declaration.SingleLines
import AliasBinding.Proofs.Generation.Pieces
import AliasBinding.Proofs.Script.File
import AliasBinding.Proofs.Json.Printing
import AliasBinding.Proofs.Script.JsonText
import AliasBinding.Proofs.Generation.Namespaces
import AliasBinding.Proofs.Manifest.Nesting
import AliasBinding.Proofs.CommandLine.RoundTrip
import AliasBinding.Proofs.Declaration.Context
import AliasBinding.Proofs.Declaration.Forwarding
import AliasBinding.Proofs.Declaration.VoidDetection
import AliasBinding.Proofs.Declaration.BackingField
import AliasBinding.Proofs.TypeText.ArrayNests
import AliasBinding.Proofs.Generation.MemberNames
import AliasBinding.Proofs.TypeText.Agreement
import AliasBinding.Proofs.Declaration.Acceptance
import AliasBinding.Proofs.Declaration.Remains
import AliasBinding.Proofs.Text.LineEnds
import AliasBinding.Proofs.TypeText.Readability
import AliasBinding.Proofs.TypeText.WholeNames
import AliasBinding.Proofs.Declaration.Defaults
import AliasBinding.Proofs.Declaration.IntegerDefaults
import AliasBinding.Proofs.TypeText.Omissions
import AliasBinding.Proofs.Declaration.ConstraintCombinations
import AliasBinding.Proofs.Declaration.Indentation
import AliasBinding.Proofs.FilePath.Components
import AliasBinding.Proofs.FilePath.NamedPath
import AliasBinding.Proofs.Manifest.Location
import AliasBinding.Proofs.Declaration.SourceNames
