import PipelineDepot.Blob.Client
import PipelineDepot.Blob.Error
import PipelineDepot.Blob.Local
import PipelineDepot.Blob.Memory
import PipelineDepot.Bytes
import PipelineDepot.ChunkSignature
import PipelineDepot.Codec
import PipelineDepot.CommandLine.Arguments
import PipelineDepot.CommandLine.Basic
import PipelineDepot.CommandLine.Program
import PipelineDepot.CommandLine.Resolution
import PipelineDepot.Config.Basic
import PipelineDepot.Config.Check
import PipelineDepot.Config.Connection
import PipelineDepot.Config.Document
import PipelineDepot.Config.Environment
import PipelineDepot.Config.File
import PipelineDepot.Config.Form
import PipelineDepot.Config.Substitution
import PipelineDepot.Datum
import PipelineDepot.Decimal.Binary64
import PipelineDepot.Decimal.Reading
import PipelineDepot.Decimal.Render
import PipelineDepot.Decimal.Shortest
import PipelineDepot.Files.Disk
import PipelineDepot.Files.Error
import PipelineDepot.Files.Path
import PipelineDepot.Files.Tree
import PipelineDepot.Json.Printer
import PipelineDepot.KeyPath
import PipelineDepot.Main
import PipelineDepot.Pipeline.Artifact
import PipelineDepot.Pipeline.Spec
import PipelineDepot.Proofs.Association
import PipelineDepot.Proofs.BucketName
import PipelineDepot.Proofs.ChunkSignature.Live
import PipelineDepot.Proofs.ChunkSignature.Occurrence
import PipelineDepot.Proofs.ChunkSignature.Residue
import PipelineDepot.Proofs.ChunkSignature.Separator
import PipelineDepot.Proofs.ChunkSignature.Strip
import PipelineDepot.Proofs.CleanPath
import PipelineDepot.Proofs.Concurrency.Apart
import PipelineDepot.Proofs.Concurrency.Linearizable
import PipelineDepot.Proofs.Concurrency.Order
import PipelineDepot.Proofs.Concurrency.Stage
import PipelineDepot.Proofs.Concurrency.Task
import PipelineDepot.Proofs.Config.Check
import PipelineDepot.Proofs.Config.Faults
import PipelineDepot.Proofs.Config.Grammar
import PipelineDepot.Proofs.Config.Keys
import PipelineDepot.Proofs.Config.Names
import PipelineDepot.Proofs.Config.Naming
import PipelineDepot.Proofs.Config.Priority
import PipelineDepot.Proofs.Config.References
import PipelineDepot.Proofs.Documents
import PipelineDepot.Proofs.Files.Alike
import PipelineDepot.Proofs.Files.Ancestors
import PipelineDepot.Proofs.Files.Calls
import PipelineDepot.Proofs.Files.Goal
import PipelineDepot.Proofs.Files.MakeDirs
import PipelineDepot.Proofs.Files.Names
import PipelineDepot.Proofs.Files.View
import PipelineDepot.Proofs.Files.Walk
import PipelineDepot.Proofs.JoinPath
import PipelineDepot.Proofs.KeyPath.Below
import PipelineDepot.Proofs.KeyPath.Canonical
import PipelineDepot.Proofs.KeyPath.Join
import PipelineDepot.Proofs.KeyPath.PipelineKey
import PipelineDepot.Proofs.Local.Client
import PipelineDepot.Proofs.Local.Confinement
import PipelineDepot.Proofs.Local.Effects
import PipelineDepot.Proofs.Local.Missing
import PipelineDepot.Proofs.Local.ObjectPath
import PipelineDepot.Proofs.Local.Refinement
import PipelineDepot.Proofs.Memory.Address
import PipelineDepot.Proofs.Memory.History
import PipelineDepot.Proofs.Memory.View
import PipelineDepot.Proofs.Program.Commands
import PipelineDepot.Proofs.Program.Documents
import PipelineDepot.Proofs.Program.Effects
import PipelineDepot.Proofs.Program.Endings
import PipelineDepot.Proofs.Program.Objects
import PipelineDepot.Proofs.Record
import PipelineDepot.Proofs.Refinement
import PipelineDepot.Proofs.RoundTrip
import PipelineDepot.Proofs.Session.Action
import PipelineDepot.Proofs.Session.Contract
import PipelineDepot.Proofs.Session.Run
import PipelineDepot.Proofs.Session.Settings
import PipelineDepot.Proofs.WireSize
import PipelineDepot.Readers
import PipelineDepot.Store.Basic
import PipelineDepot.Store.Error
import PipelineDepot.Text.Blank
import PipelineDepot.Text.Digits
import PipelineDepot.Text.Direction
import PipelineDepot.Text.Hidden
import PipelineDepot.Text.Mark
import PipelineDepot.Text.Quoted
import PipelineDepot.Text.Ranges
import PipelineDepot.Toml.Scalar
import PipelineDepot.Toml.Statement
import PipelineDepot.Toml.Table
import PipelineDepot.Toml.Text
import PipelineDepot.Url.Address
import PipelineDepot.Url.Basic
import PipelineDepot.Url.Domain
import PipelineDepot.Url.Error
import PipelineDepot.Url.Punycode
import PipelineDepot.Validation
import PipelineDepot.Yaml.Document
import PipelineDepot.Yaml.Event
import PipelineDepot.Yaml.Layout
import PipelineDepot.Yaml.Printer
import PipelineDepot.Yaml.Reader
import PipelineDepot.Yaml.Record
import PipelineDepot.Yaml.Scalar
import PipelineDepot.Yaml.Token
import PipelineDepot.Yaml.Token.Cursor
import PipelineDepot.Yaml.Token.Scalars
import PipelineDepot.Yaml.Token.Scanner
import PipelineDepot.Yaml.Value
