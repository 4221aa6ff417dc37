import Refetch.Adapter
import Refetch.Cli.Arguments
import Refetch.Cli.Batch
import Refetch.Cli.Command
import Refetch.Cli.Inputs
import Refetch.Cli.Log
import Refetch.Cli.Narration
import Refetch.Decimal.Double
import Refetch.Decimal.Layout
import Refetch.Decimal.Shortest
import Refetch.DerivedField
import Refetch.Document.Basic
import Refetch.Document.Grammar
import Refetch.Document.Lexer
import Refetch.Document.Literal
import Refetch.Document.Printer
import Refetch.Document.Reader
import Refetch.Document.Same
import Refetch.Document.Token
import Refetch.FileTree.Basic
import Refetch.FileTree.Walk
import Refetch.Isolation
import Refetch.Json.Basic
import Refetch.Json.Reader
import Refetch.Main
import Refetch.Manifest
import Refetch.Members
import Refetch.Pass.Basic
import Refetch.Pass.Visit
import Refetch.Pass.Walk
import Refetch.Proofs.Cli.Batches
import Refetch.Proofs.Cli.Collecting
import Refetch.Proofs.Cli.Subcommands
import Refetch.Proofs.DerivedNames
import Refetch.Proofs.Document.Answering
import Refetch.Proofs.Document.Building
import Refetch.Proofs.Document.Carrying
import Refetch.Proofs.Document.Collapsing
import Refetch.Proofs.Document.Echoing
import Refetch.Proofs.Document.Filled
import Refetch.Proofs.Document.Gathering
import Refetch.Proofs.Document.Joining
import Refetch.Proofs.Document.Lookahead
import Refetch.Proofs.Document.Naming
import Refetch.Proofs.Document.Printing
import Refetch.Proofs.Document.Reading
import Refetch.Proofs.Document.Relabelling
import Refetch.Proofs.Document.Rules
import Refetch.Proofs.Document.Scanning
import Refetch.Proofs.Document.Solid
import Refetch.Proofs.Document.Spacing
import Refetch.Proofs.Emptying
import Refetch.Proofs.Isolation
import Refetch.Proofs.Manifests
import Refetch.Proofs.OneByOne
import Refetch.Proofs.OnePass
import Refetch.Proofs.Pass.Fusion
import Refetch.Proofs.Pass.Listing
import Refetch.Proofs.Pass.Walking
import Refetch.Proofs.Places
import Refetch.Proofs.Pruning
import Refetch.Proofs.References
import Refetch.Proofs.Reordering
import Refetch.Proofs.Settings
import Refetch.Proofs.Settled
import Refetch.Proofs.Source.Composing
import Refetch.Proofs.Source.Describing
import Refetch.Proofs.Source.HandingOver
import Refetch.Proofs.Source.Keeping
import Refetch.Proofs.Source.Loading
import Refetch.Proofs.Source.Refusing
import Refetch.Proofs.Source.Seams
import Refetch.Proofs.Stripping
import Refetch.Proofs.Text.Runs
import Refetch.Proofs.TypeNames
import Refetch.Proofs.TypePrefix
import Refetch.Recorded
import Refetch.Request
import Refetch.Session
import Refetch.Source.Basic
import Refetch.Source.Descriptor
import Refetch.Source.Load
import Refetch.Source.Written
import Refetch.Text.Blank
import Refetch.Text.Digits
import Refetch.Text.Graphic
import Refetch.Text.Inert
import Refetch.Text.Lines
import Refetch.Text.Mark
import Refetch.Text.Quoted
import Refetch.Text.Ranges
import Refetch.Text.Utf8
import Refetch.TypePrefix
