import ApiContract.Text.Chars
import ApiContract.Text.CaseMap
import ApiContract.Text.Literal
import ApiContract.Text.Visible
import ApiContract.Text.Utf8
import ApiContract.Number.Shortest
import ApiContract.Document.Json.Reader
import ApiContract.Document.Json.Printer
import ApiContract.Operation.Selection
import ApiContract.OperationSet
import ApiContract.Operation.Document
import ApiContract.Operation.Source
import ApiContract.Settings.Document
import ApiContract.Template.Render
import ApiContract.Shell.Start
import ApiContract.Shell.Piping
import ApiContract.Generation.Request
import ApiContract.Generation.TemplateFile
import ApiContract.CommandLine.Run
import ApiContract.Main
import ApiContract.Proofs.Identifier
import ApiContract.Proofs.Scanner.Code
import ApiContract.Proofs.DecoderBlock.Alignment
import ApiContract.Proofs.DecoderBlock.Composition
import ApiContract.Proofs.DecoderBlock.Agreement
import ApiContract.Proofs.Files.Path
import ApiContract.Proofs.Operation.Document
import ApiContract.Proofs.Operation.Decoding
import ApiContract.Proofs.OperationSet.Assembly
import ApiContract.Proofs.Files.Tree
import ApiContract.Proofs.Files.Access
import ApiContract.Proofs.Generation.Output
import ApiContract.Proofs.Generation.Basic
import ApiContract.Proofs.Generation.Request
import ApiContract.Proofs.Number.Binary64
import ApiContract.Proofs.Template.Reader
import ApiContract.Proofs.Generation.Module
import ApiContract.Proofs.Generation.Standard
import ApiContract.Proofs.Generation.Independence
import ApiContract.Proofs.Identifier.Collision
import ApiContract.Proofs.Text.Literal
import ApiContract.Proofs.Text.Parse
import ApiContract.Proofs.Operation.RequestType
import ApiContract.Proofs.Identifier.Pattern
import ApiContract.Proofs.Operation.Verdict
import ApiContract.Proofs.Operation.Heading
import ApiContract.Proofs.Files.Lexical
import ApiContract.Proofs.Operation.PropertyKeys
import ApiContract.Proofs.Files.Confinement
import ApiContract.Proofs.Generation.Confinement
import ApiContract.Proofs.OperationSet.Imports
import ApiContract.Proofs.Number.Digits
import ApiContract.Proofs.Files.Components
import ApiContract.Proofs.Operation.NumericStatus
import ApiContract.Proofs.Generation.Failure
import ApiContract.Proofs.CommandLine.Target
import ApiContract.Proofs.Text.Delimited
import ApiContract.Proofs.Document.Toml.Keys
import ApiContract.Proofs.Settings.Effective
import ApiContract.Proofs.Files.Walk
import ApiContract.Proofs.Files.Admitted
import ApiContract.Proofs.Files.Directories
import ApiContract.Proofs.Generation.Artifacts
import ApiContract.Proofs.Shell.Piping
import ApiContract.Proofs.Shell.Progress
import ApiContract.Proofs.Generation.Formatter
import ApiContract.Proofs.Shell.Batch
import ApiContract.Proofs.Text.Search
import ApiContract.Proofs.Operation.BareKeys
import ApiContract.Proofs.Text.CaseMap
import ApiContract.Proofs.Operation.CaseVariants
