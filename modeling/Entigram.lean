import Entigram.Ascending
import Entigram.CSharp
import Entigram.CharSet
import Entigram.Classification
import Entigram.Command.Action
import Entigram.Command.Arguments
import Entigram.Command.Generate
import Entigram.Command.Inspect
import Entigram.Command.Options
import Entigram.Command.Reach
import Entigram.Command.Run
import Entigram.Command.Startup
import Entigram.Command.Table
import Entigram.Config.Check
import Entigram.Config.Issue
import Entigram.Config.Loading
import Entigram.Config.LogFile
import Entigram.Config.Settings
import Entigram.Config.Shown
import Entigram.Config.Tree
import Entigram.Console.ControlCode
import Entigram.Console.Literal
import Entigram.Console.Markup
import Entigram.Console.Print
import Entigram.Console.Style
import Entigram.Diagram.Reading
import Entigram.Diagram.Statement
import Entigram.Disk
import Entigram.Generation
import Entigram.Json.Basic
import Entigram.Json.Reader
import Entigram.Json.Text
import Entigram.Libraries
import Entigram.Listing
import Entigram.Log.Filter
import Entigram.Log.Logger
import Entigram.Log.Record
import Entigram.Log.Sink
import Entigram.Main
import Entigram.Moment
import Entigram.Moment.Calendar
import Entigram.Moment.Directive
import Entigram.Moment.Duration
import Entigram.Moment.Pattern
import Entigram.Naming.ClassNames
import Entigram.Naming.Identifier
import Entigram.Naming.Used
import Entigram.Number.Binary64
import Entigram.Number.Shortest
import Entigram.Path
import Entigram.Plan.Entity
import Entigram.Plan.Mapping
import Entigram.Schema
import Entigram.Standard
import Entigram.Standard.RotatedFile
import Entigram.Standard.VariableFile
import Entigram.Target
import Entigram.Template
import Entigram.Template.Kind
import Entigram.Template.Layout
import Entigram.Template.Part
import Entigram.Template.Value
import Entigram.Text.Blank
import Entigram.Text.Case
import Entigram.Text.CaseTable
import Entigram.Text.CharName
import Entigram.Text.CharNameTable
import Entigram.Text.CodePage
import Entigram.Text.CodePageTable
import Entigram.Text.Encoding
import Entigram.Text.Printable
import Entigram.Text.Quoted
import Entigram.Text.Search
import Entigram.Text.Trie
import Entigram.Text.WordChar
import Entigram.World
import Entigram.Yaml.Cursor
import Entigram.Yaml.Lexer
import Entigram.Yaml.Node
import Entigram.Yaml.Scalar
import Entigram.Yaml.Value
import Entigram.Proofs.Attempt
import Entigram.Proofs.Naming.Fresh
import Entigram.Proofs.Naming.Resolution
import Entigram.Proofs.Plan.Links
import Entigram.Proofs.Plan.Navigation
import Entigram.Proofs.Plan.Mapping
import Entigram.Proofs.Plan.Failure
import Entigram.Proofs.Plan.Ownership
import Entigram.Proofs.Plan.Closure
import Entigram.Proofs.Plan.Names
import Entigram.Proofs.Classification
import Entigram.Proofs.Plan.Keys
import Entigram.Proofs.Plan.Sections
import Entigram.Proofs.Plan.Order
import Entigram.Proofs.Text.Pieces
import Entigram.Proofs.Diagram.Reading
import Entigram.Proofs.Diagram.Account
import Entigram.Proofs.Diagram.Writing
import Entigram.Proofs.Diagram.WrittenLine
import Entigram.Proofs.Diagram.RoundTrip
import Entigram.Proofs.Plan.Correspondence
import Entigram.Proofs.Plan.Repetition
import Entigram.Proofs.Plan.Spelling
import Entigram.Proofs.Plan.Growth
import Entigram.Proofs.CSharp.Lines
import Entigram.Proofs.CSharp.Entities
import Entigram.Proofs.Text.Case
import Entigram.Proofs.CSharp.Mapping
import Entigram.Proofs.Generation.Lines
import Entigram.Proofs.Naming.Numbering
import Entigram.Proofs.Plan.Members
import Entigram.Proofs.Config.Names
import Entigram.Proofs.Generation.Declared
import Entigram.Proofs.Classification.Order
import Entigram.Proofs.Diagram.Spacing
import Entigram.Proofs.Config.Checked
import Entigram.Proofs.Config.Tree
import Entigram.Proofs.Config.Setting
import Entigram.Proofs.Config.Override
import Entigram.Proofs.Config.Failure
import Entigram.Proofs.Naming.Search
import Entigram.Proofs.Naming.Families
import Entigram.Proofs.Naming.Lookup
import Entigram.Proofs.Text.Ascii
import Entigram.Proofs.Naming.Words
import Entigram.Proofs.Text.Lower
import Entigram.Proofs.Naming.Plural
import Entigram.Proofs.Json
import Entigram.Proofs.Config.Merge
import Entigram.Proofs.Config.Notes
import Entigram.Proofs.Config.Order
import Entigram.Proofs.Config.Keyed
import Entigram.Proofs.Log.Filter
import Entigram.Proofs.Path
import Entigram.Proofs.Config.Written
import Entigram.Proofs.Command.Override
import Entigram.Proofs.Generation.AcceptedNames
import Entigram.Proofs.Template
import Entigram.Proofs.Config.PathTemplate
import Entigram.Proofs.Diagram.Shape
import Entigram.Proofs.Json.Text
import Entigram.Proofs.Listing
import Entigram.Proofs.Config.Variables
import Entigram.Proofs.Config.Reloading
import Entigram.Proofs.Disk
import Entigram.Proofs.Log.File
import Entigram.Proofs.Command.Action
import Entigram.Proofs.Command.Writing
