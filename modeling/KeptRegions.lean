import KeptRegions.CommandLine.Arguments
import KeptRegions.CommandLine.Command
import KeptRegions.CommandLine.Listing
import KeptRegions.CommandLine.Run
import KeptRegions.Comment.Style
import KeptRegions.Comment.Token
import KeptRegions.Config.Load
import KeptRegions.Config.Setup
import KeptRegions.Config.Value
import KeptRegions.Document.Basic
import KeptRegions.Document.Fault
import KeptRegions.Document.Reading
import KeptRegions.Document.Reconcile
import KeptRegions.Document.Segments
import KeptRegions.Files.Path
import KeptRegions.Files.Tree
import KeptRegions.Journal
import KeptRegions.Main
import KeptRegions.Marker.Builtin
import KeptRegions.Marker.Patterns
import KeptRegions.Marker.Rules
import KeptRegions.Number.Binary
import KeptRegions.Pattern.Basic
import KeptRegions.Pattern.Match
import KeptRegions.Pattern.Reader
import KeptRegions.Preset
import KeptRegions.Proofs.Comment.Cutting
import KeptRegions.Proofs.Comment.Delimiter
import KeptRegions.Proofs.Comment.Splicing
import KeptRegions.Proofs.Document.Canonical
import KeptRegions.Proofs.Document.Copying
import KeptRegions.Proofs.Document.Layout
import KeptRegions.Proofs.Document.Lossless
import KeptRegions.Proofs.Document.Marks
import KeptRegions.Proofs.Document.Nesting
import KeptRegions.Proofs.Document.Rereading
import KeptRegions.Proofs.Document.Splicing
import KeptRegions.Proofs.Document.Standing
import KeptRegions.Session
import KeptRegions.Setup
import KeptRegions.Sync
import KeptRegions.Text.Basic
import KeptRegions.Text.Blank
import KeptRegions.Text.Decoding
import KeptRegions.Text.Digit
import KeptRegions.Text.Lines
import KeptRegions.Text.Name
import KeptRegions.Text.Printable
import KeptRegions.Text.Quoted
import KeptRegions.Text.Ranges
import KeptRegions.Text.Word
import KeptRegions.Yaml.Node
import KeptRegions.Yaml.Scalar
import KeptRegions.Yaml.Source
import KeptRegions.Yaml.Token
import KeptRegions.Yaml.Value
import KeptRegions.Proofs.Document.Moving
import KeptRegions.Proofs.Document.Repeating
import KeptRegions.Proofs.Document.Balance
import KeptRegions.Proofs.Document.Grammar
import KeptRegions.Proofs.Comment.Ending
import KeptRegions.Proofs.Comment.Tokenization
import KeptRegions.Proofs.Session.Steps
import KeptRegions.Proofs.Session.Syncing
import KeptRegions.Proofs.Files.Intact
import KeptRegions.Proofs.Files.Texts
import KeptRegions.Proofs.Session.Batch
import KeptRegions.Proofs.CommandLine.Commands
import KeptRegions.Proofs.CommandLine.Runs
import KeptRegions.Proofs.CommandLine.Reporting
import KeptRegions.Proofs.Document.Framing
import KeptRegions.Proofs.Document.Wanted
import KeptRegions.Proofs.Text.Lines
import KeptRegions.Proofs.Document.Locating
import KeptRegions.Proofs.Text.Runs
import KeptRegions.Proofs.Pattern.Language
import KeptRegions.Proofs.Pattern.Spelling
import KeptRegions.Proofs.Pattern.Reading
import KeptRegions.Proofs.Pattern.Parts
import KeptRegions.Proofs.Pattern.Branches
import KeptRegions.Proofs.Marker.Delimiters
import KeptRegions.Proofs.Marker.Keyword
import KeptRegions.Proofs.Marker.Forms
import KeptRegions.Proofs.Marker.Apart
import KeptRegions.Number.Limits
import KeptRegions.Proofs.Comment.Policies
import KeptRegions.Proofs.Files.Paths
import KeptRegions.Proofs.Session.DryRun
import KeptRegions.Proofs.CommandLine.Words
import KeptRegions.Proofs.CommandLine.Updating
import KeptRegions.Proofs.Config.Unchecked
import KeptRegions.Proofs.Comment.Registration
import KeptRegions.Proofs.Document.Index
import KeptRegions.Proofs.Document.Removing
import KeptRegions.Proofs.Text.Places
