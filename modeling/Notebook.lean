import Notebook.Cell
import Notebook.CommandLine.Answer
import Notebook.CommandLine.Argument
import Notebook.CommandLine.Documents
import Notebook.CommandLine.Execution
import Notebook.CommandLine.NotesDirectory
import Notebook.CommandLine.Request
import Notebook.CommandLine.Response
import Notebook.CommandLine.Style
import Notebook.Directive
import Notebook.Document.Block
import Notebook.Document.Reader
import Notebook.Document.Store
import Notebook.Document.Writer
import Notebook.Failure
import Notebook.Family
import Notebook.Fence
import Notebook.History
import Notebook.Image
import Notebook.Language
import Notebook.Main
import Notebook.Notes.Search
import Notebook.Notes.Welcome
import Notebook.Output.Marker
import Notebook.Output.Segment
import Notebook.Path
import Notebook.Program.Basic
import Notebook.Program.Build
import Notebook.Program.Go
import Notebook.Program.Jai
import Notebook.Program.Python
import Notebook.Program.Rust
import Notebook.Program.Script
import Notebook.Program.Zig
import Notebook.Proofs.Document.Idempotence
import Notebook.Proofs.Document.ReadCell
import Notebook.Proofs.Document.WellFormed
import Notebook.Proofs.Document.WrittenOutput
import Notebook.Proofs.Output.Alignment
import Notebook.Proofs.Output.Streaming
import Notebook.Proofs.Program.EntryPoints
import Notebook.Proofs.Run.Ending
import Notebook.Proofs.Session.Frame
import Notebook.Proofs.Session.Noninterference
import Notebook.Proofs.Session.Reports
import Notebook.Proofs.Session.SavedOutput
import Notebook.Proofs.Session.Stages
import Notebook.Run.Event
import Notebook.Run.Outcome
import Notebook.Run.Process
import Notebook.Run.Supervision
import Notebook.Run.Token
import Notebook.Session
import Notebook.Settings
import Notebook.Shell.Builtin
import Notebook.Shell.Command
import Notebook.Shell.Evaluation
import Notebook.Shell.Executable
import Notebook.Shell.Expansion
import Notebook.Shell.Format
import Notebook.Shell.Process
import Notebook.Shell.Reader
import Notebook.Shell.State
import Notebook.Shell.Token
import Notebook.Shell.Utility
import Notebook.Source.EntryPoint
import Notebook.Source.Lexicon
import Notebook.Source.Mask
import Notebook.Source.Statement
import Notebook.SystemError
import Notebook.Text.Basic
import Notebook.Text.Blank
import Notebook.Text.CaseFold
import Notebook.Text.CharRange
import Notebook.Text.Digit
import Notebook.Text.Letter
import Notebook.Text.Printable
import Notebook.Text.Quoted
import Notebook.Text.Utf8
import Notebook.Toml.Literal
import Notebook.Toml.Reader
import Notebook.Toml.Writer
import Notebook.Toolchain
import Notebook.Workspace
import Notebook.World.Basic
import Notebook.World.FileTree
import Notebook.World.Surroundings
import Notebook.Proofs.Document.Conservation
import Notebook.Proofs.Document.ClearedOutput
import Notebook.Proofs.World.FileTree
import Notebook.Proofs.Document.FenceCount
import Notebook.Proofs.Document.Retagged
import Notebook.Proofs.CommandLine.Tag
import Notebook.Proofs.Session.CreatedFile
import Notebook.Proofs.Source.Masking
import Notebook.Proofs.Source.Labelling
import Notebook.Proofs.Source.Offsets
import Notebook.Proofs.Source.Slicing
import Notebook.Proofs.Source.WholeDeclaration
import Notebook.Proofs.Program.PrintedValue
import Notebook.Proofs.Program.ImportBlock
import Notebook.Proofs.Program.Packages
import Notebook.Proofs.Program.Indentation
import Notebook.Proofs.Output.Received
import Notebook.Proofs.Image.Versions
import Notebook.Proofs.Run.Cancellation
