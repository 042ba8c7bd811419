import ProfileShell.Text.Utf8
import ProfileShell.Text.Blank
import ProfileShell.Text.Letters
import ProfileShell.Text.Unprintable
import ProfileShell.Text.Literal
import ProfileShell.Text.Listing
import ProfileShell.Text.Terminal
import ProfileShell.Decimal.Binary
import ProfileShell.Decimal.Shortest
import ProfileShell.Json
import ProfileShell.Yaml.Source
import ProfileShell.Yaml.Folding
import ProfileShell.Yaml.Scalar
import ProfileShell.Yaml.Token
import ProfileShell.Yaml.Lexer
import ProfileShell.Yaml.Node
import ProfileShell.Entries
import ProfileShell.Catalog
import ProfileShell.Config
import ProfileShell.Config.Number
import ProfileShell.Config.Fault
import ProfileShell.Config.Reader
import ProfileShell.Text.Pattern
import ProfileShell.Text.NameCharacter
import ProfileShell.Log.Format
import ProfileShell.Log.Sink
import ProfileShell.Environ
import ProfileShell.Environ.History
import ProfileShell.Environ.Journal
import ProfileShell.Text.Alternation
import ProfileShell.Substitution
import ProfileShell.Substitution.Slot
import ProfileShell.Path
import ProfileShell.Path.Template
import ProfileShell.Path.Places
import ProfileShell.Volume
import ProfileShell.Text.Paint
import ProfileShell.Host
import ProfileShell.Log.Record
import ProfileShell.Log
import ProfileShell.Release
import ProfileShell.WaitStatus
import ProfileShell.Halt
import ProfileShell.Selection
import ProfileShell.Profiles.Fragments
import ProfileShell.Profiles
import ProfileShell.RcFile
import ProfileShell.Script
import ProfileShell.Command
import ProfileShell.Launch.Options
import ProfileShell.Launch
import ProfileShell.Posix.Syntax
import ProfileShell.Posix.Export
import ProfileShell.Posix.Interpreter
import ProfileShell.Text.Similarity
import ProfileShell.CommandLine.Flag
import ProfileShell.CommandLine
import ProfileShell.CommandLine.Block
import ProfileShell.Settings
import ProfileShell.Config.File
import ProfileShell.Session
import ProfileShell.Program
import ProfileShell.Text.Styled
import ProfileShell.Main
import ProfileShell.Proofs.Text.Utf8
import ProfileShell.Proofs.Text.Utf8.Ascii
import ProfileShell.Proofs.Environ
import ProfileShell.Proofs.Environ.History
import ProfileShell.Proofs.Environ.Journal
import ProfileShell.Proofs.Volume
import ProfileShell.Proofs.Reporting
import ProfileShell.Proofs.Fragments
import ProfileShell.Proofs.Profiles
import ProfileShell.Proofs.RcFile
import ProfileShell.Proofs.Launch
import ProfileShell.Proofs.Selection.Walk
import ProfileShell.Proofs.Selection.Invariants
import ProfileShell.Proofs.Selection.Completeness
import ProfileShell.Proofs.Selection.Requests
import ProfileShell.Proofs.Selection.Replay
import ProfileShell.Proofs.Session
import ProfileShell.Proofs.Profiles.Repetitions
import ProfileShell.Proofs.RcFile.Layout
import ProfileShell.Proofs.Fragments.Schedule
import ProfileShell.Proofs.Launch.Generate
import ProfileShell.Proofs.Script
import ProfileShell.Proofs.Script.Exports
import ProfileShell.Proofs.Script.Body
import ProfileShell.Proofs.Script.Regeneration
import ProfileShell.Proofs.Volume.Files
import ProfileShell.Proofs.Program.Phase
import ProfileShell.Proofs.Program.Course
import ProfileShell.Proofs.Program.Files
import ProfileShell.Proofs.Program.Stages
import ProfileShell.Proofs.CommandLine
import ProfileShell.Proofs.Yaml.Quotation
import ProfileShell.Proofs.Yaml.Word
import ProfileShell.Proofs.Yaml.Lexing
import ProfileShell.Proofs.Yaml.Flow
import ProfileShell.Proofs.Yaml.Nodes
import ProfileShell.Proofs.Yaml.Block
import ProfileShell.Proofs.Yaml.BlockNodes
import ProfileShell.Proofs.Config.Description
import ProfileShell.Log.Ascii
import ProfileShell.Proofs.Selection.Notices
import ProfileShell.Json.Reader
import ProfileShell.Proofs.Log.Ascii
import ProfileShell.Proofs.Json.Reader
import ProfileShell.Proofs.Log.Json
import ProfileShell.Proofs.Text.Alternation
import ProfileShell.Proofs.Substitution
import ProfileShell.Proofs.Substitution.Slots
import ProfileShell.Proofs.Path.Template
import ProfileShell.Proofs.Launch.Arguments
import ProfileShell.Proofs.Launch.Directory
import ProfileShell.Proofs.Launch.DirectoryChoice
import ProfileShell.Proofs.Launch.RcFileNames
import ProfileShell.Proofs.Settings
import ProfileShell.Proofs.Text.Pattern
import ProfileShell.Proofs.Log.Format
import ProfileShell.Proofs.Text.Blank
import ProfileShell.Proofs.Log.Sink
import ProfileShell.Proofs.Config.Declarations
