import ClientGem.Api.Config
import ClientGem.Api.Decode
import ClientGem.Api.Load
import ClientGem.Api.Resource
import ClientGem.Api.Verb
import ClientGem.Command.Arguments
import ClientGem.Command.Run
import ClientGem.Command.Warning
import ClientGem.Disk.Basic
import ClientGem.Document.Reader
import ClientGem.Document.ShapeError
import ClientGem.Document.Value
import ClientGem.FilePath
import ClientGem.FileTree.Basic
import ClientGem.FileTree.Calls
import ClientGem.FileTree.Walk
import ClientGem.Gem.Basic
import ClientGem.Gem.Settings
import ClientGem.Gem.Classes
import ClientGem.Gem.Credentials
import ClientGem.Gem.Files
import ClientGem.Gem.Method
import ClientGem.Gem.Readme
import ClientGem.Gem.Reference
import ClientGem.Gem.Requests
import ClientGem.Gem.Tests
import ClientGem.Gem.Wrappers
import ClientGem.Main
import ClientGem.Number.Binary64
import ClientGem.Output.Bounded
import ClientGem.Output.Directory
import ClientGem.Output.Memory
import ClientGem.Output.Sink
import ClientGem.PathTemplate
import ClientGem.Ruby.Name
import ClientGem.Ruby.Source
import ClientGem.Text.Basic
import ClientGem.Text.Quoted
import ClientGem.Unicode.Properties
import ClientGem.Unicode.CaseTable
import ClientGem.Unicode.Casing
import ClientGem.Yaml.BlockScalar
import ClientGem.Yaml.Cursor
import ClientGem.Yaml.Fault
import ClientGem.Yaml.Linked
import ClientGem.Yaml.Node
import ClientGem.Yaml.Plain
import ClientGem.Yaml.PlainScalar
import ClientGem.Yaml.QuotedScalar
import ClientGem.Yaml.Read
import ClientGem.Yaml.Tag
import ClientGem.Yaml.Token.Basic
import ClientGem.Yaml.Token.Scan
import ClientGem.Proofs.PathTemplate.Grammar
import ClientGem.Proofs.PathTemplate.Segmentation
import ClientGem.Proofs.PathTemplate.Interpolation
import ClientGem.Proofs.Ruby.Call
import ClientGem.Proofs.PathTemplate.Names
import ClientGem.Proofs.PathTemplate.Occurrences
import ClientGem.Proofs.Gem.MethodAgreement
import ClientGem.Proofs.Ruby.Layout
import ClientGem.Proofs.FilePath.Components
import ClientGem.Proofs.Ruby.Name
import ClientGem.Proofs.Gem.Paths
import ClientGem.Proofs.Gem.EntryRequires
import ClientGem.Proofs.Output.Writes
import ClientGem.Proofs.Gem.Build
import ClientGem.Proofs.FilePath.Join
import ClientGem.Proofs.FileTree.Destination
import ClientGem.Proofs.FileTree.Frame
import ClientGem.Proofs.FilePath.Confined
import ClientGem.Proofs.Gem.Confinement
import ClientGem.Proofs.Ruby.Definitions
import ClientGem.Proofs.Gem.Definitions
import ClientGem.Proofs.Gem.TestNames
import ClientGem.Proofs.Text.Split
import ClientGem.Proofs.PathTemplate.Substitution
import ClientGem.Proofs.Gem.Addresses
import ClientGem.Proofs.Ruby.Passage
import ClientGem.Proofs.Gem.Passages
import ClientGem.Proofs.Gem.ExampleCalls
import ClientGem.Proofs.Ruby.Token
import ClientGem.Proofs.Ruby.Value
import ClientGem.Proofs.Gem.ResponseShape
import ClientGem.Proofs.FilePath.Steps
import ClientGem.Proofs.FileTree.Along
import ClientGem.Proofs.FileTree.Reach
import ClientGem.Proofs.FileTree.Growth
import ClientGem.Proofs.FileTree.Lineage
import ClientGem.Proofs.FileTree.Settled
import ClientGem.Proofs.Output.InPlace
import ClientGem.Proofs.FilePath.OfNames
import ClientGem.Proofs.Output.Apart
import ClientGem.Proofs.Gem.Places
import ClientGem.Proofs.Gem.DirectoryBuild
import ClientGem.Proofs.Api.DocumentChanges
import ClientGem.Proofs.Gem.Balance
import ClientGem.Proofs.Gem.SettingLiterals
import ClientGem.Proofs.Gem.CrossReferences
import ClientGem.Proofs.Document.Fields
import ClientGem.Proofs.Api.Encoding
import ClientGem.Proofs.Output.Memory
import ClientGem.Proofs.Output.Displacement
import ClientGem.Proofs.Gem.MemoryBuild
import ClientGem.Proofs.Gem.MissingNames
import ClientGem.Proofs.Api.Load
import ClientGem.Proofs.Output.View
import ClientGem.Proofs.Output.Printout
import ClientGem.Proofs.Output.Room
import ClientGem.Proofs.Command.Arguments
import ClientGem.Proofs.Command.DryRun
import ClientGem.Proofs.FileTree.Lookup
import ClientGem.Proofs.FileTree.Rooted
import ClientGem.Proofs.FileTree.Refusal
import ClientGem.Proofs.Output.AllOrNothing
import ClientGem.Proofs.Ruby.Spacing
import ClientGem.Proofs.Ruby.Nesting
import ClientGem.Proofs.Gem.ResponseKeys
import ClientGem.Proofs.Ruby.Words
