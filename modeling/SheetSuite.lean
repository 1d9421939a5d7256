import SheetSuite.Decimal.Shortest
import SheetSuite.Failure
import SheetSuite.Feed
import SheetSuite.FileTree.Basic
import SheetSuite.FileTree.Operations
import SheetSuite.FileTree.Replace
import SheetSuite.Http.Exchange
import SheetSuite.Http.Server
import SheetSuite.Http.Uri
import SheetSuite.Http.Wire
import SheetSuite.Json.Fault
import SheetSuite.Json.Number
import SheetSuite.Json.Record
import SheetSuite.Json.Scan
import SheetSuite.Json.Skip
import SheetSuite.Json.Write
import SheetSuite.Log.Basic
import SheetSuite.Log.Filter
import SheetSuite.Main
import SheetSuite.Options.Basic
import SheetSuite.Options.Parser
import SheetSuite.Program
import SheetSuite.Proofs.Except
import SheetSuite.Proofs.Feed.Admission
import SheetSuite.Proofs.Feed.Shape
import SheetSuite.Proofs.FileTree.Growth
import SheetSuite.Proofs.FileTree.Interleaving
import SheetSuite.Proofs.FileTree.Lookup
import SheetSuite.Proofs.FileTree.Path
import SheetSuite.Proofs.FileTree.Repetition
import SheetSuite.Proofs.FileTree.Replacement
import SheetSuite.Proofs.FileTree.Rooted
import SheetSuite.Proofs.Json.Grammar
import SheetSuite.Proofs.Json.Objects
import SheetSuite.Proofs.Json.Reading
import SheetSuite.Proofs.Json.Skip
import SheetSuite.Proofs.Json.Soundness
import SheetSuite.Proofs.Json.Strings
import SheetSuite.Proofs.Json.Tokens
import SheetSuite.Proofs.Json.Writing
import SheetSuite.Proofs.Options.Attached
import SheetSuite.Proofs.Options.Spellings
import SheetSuite.Proofs.Program.Configuration
import SheetSuite.Proofs.Program.ExitCode
import SheetSuite.Proofs.Program.Phases
import SheetSuite.Proofs.Row.Grammar
import SheetSuite.Proofs.Row.LabelOrder
import SheetSuite.Proofs.Row.NormalForm
import SheetSuite.Proofs.Row.RoundTrip
import SheetSuite.Proofs.Settings.File
import SheetSuite.Proofs.Settings.Templates
import SheetSuite.Proofs.Storage.OnDisk
import SheetSuite.Proofs.Suite.Records
import SheetSuite.Proofs.Suite.RoundTrip
import SheetSuite.Proofs.Task
import SheetSuite.Proofs.Template.Division
import SheetSuite.Proofs.Template.Expansion
import SheetSuite.Proofs.Template.Unclosed
import SheetSuite.Proofs.Text.Cut
import SheetSuite.Proofs.Text.Utf8
import SheetSuite.Proofs.Toml.Expansion
import SheetSuite.Proofs.Toml.Grammar
import SheetSuite.Proofs.Toml.Reading
import SheetSuite.Proofs.Toml.Tables
import SheetSuite.Proofs.Update.Atomicity
import SheetSuite.Proofs.Update.History
import SheetSuite.Proofs.Update.Phases
import SheetSuite.Proofs.Update.Preview
import SheetSuite.Proofs.Update.Status
import SheetSuite.Proofs.Update.Unreliable
import SheetSuite.Row
import SheetSuite.Settings
import SheetSuite.Update
import SheetSuite.Suite
import SheetSuite.Task
import SheetSuite.Template
import SheetSuite.Text.Composition
import SheetSuite.Text.Cut
import SheetSuite.Text.Mark
import SheetSuite.Text.Quoted
import SheetSuite.Text.Utf8
import SheetSuite.Toml.Parser
import SheetSuite.Toml.Scalar
import SheetSuite.Toml.Value
import SheetSuite.Url.Address
import SheetSuite.Url.Basic
import SheetSuite.Url.Domain
import SheetSuite.Url.Domain.Direction
import SheetSuite.Url.Domain.Joining
import SheetSuite.Url.Domain.Mapping
import SheetSuite.Url.Domain.Punycode
import SheetSuite.Url.Parser
