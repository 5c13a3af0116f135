import OwnerBuild.Cli.Program
import OwnerBuild.Console.Plain
import OwnerBuild.Main
import OwnerBuild.Process.Local
import OwnerBuild.Proofs.Checker.DryRun
import OwnerBuild.Proofs.Checker.Failures
import OwnerBuild.Proofs.Checker.Streams
import OwnerBuild.Proofs.Checker.Trace
import OwnerBuild.Proofs.Cli.SameCheck
import OwnerBuild.Proofs.Cli.ShownBuild
import OwnerBuild.Proofs.Format.Located
import OwnerBuild.Proofs.Format.RawLines
import OwnerBuild.Tools
import OwnerBuild.Watch.Feed
import OwnerBuild.Proofs.Checker.Reported
import OwnerBuild.Proofs.Cli.SameLookup
import OwnerBuild.Proofs.FileTree.Walk
import OwnerBuild.Proofs.FileTree.Directory
import OwnerBuild.Proofs.FileTree.Resolved
import OwnerBuild.Proofs.Path.Order
import OwnerBuild.Proofs.Workspace.Nearest
import OwnerBuild.Proofs.Watch.InTurn
import OwnerBuild.Proofs.Watch.Batches
import OwnerBuild.Proofs.Workspace.Named
import OwnerBuild.Proofs.Text.SmallLetters
import OwnerBuild.Proofs.Watch.Suffixes
import OwnerBuild.Proofs.Markup.Escaped
import OwnerBuild.Proofs.Watch.Lifecycle
import OwnerBuild.Proofs.Watch.AsChecked
import OwnerBuild.Proofs.Format.Converted
import OwnerBuild.Proofs.Format.Truncated
import OwnerBuild.Proofs.Text.LineEnds
import OwnerBuild.Proofs.Checker.LineEnds
import OwnerBuild.Proofs.Json.Spelling
import OwnerBuild.Proofs.Format.Presented
import OwnerBuild.Proofs.Format.Items
import OwnerBuild.Proofs.Query.Tokens
import OwnerBuild.Proofs.Cli.Cells
import OwnerBuild.Proofs.Cli.StyledLines
import OwnerBuild.Proofs.Settings.Chosen
import OwnerBuild.Proofs.Workspace.Missing
