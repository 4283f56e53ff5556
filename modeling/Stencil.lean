import Stencil.Arguments
import Stencil.Calendar.Date
import Stencil.Calendar.Format
import Stencil.Calendar.Read
import Stencil.Calendar.Show
import Stencil.Command
import Stencil.Command.Check
import Stencil.Command.Files
import Stencil.Command.Line
import Stencil.Command.Render
import Stencil.Command.Tokens
import Stencil.Value.Convert
import Stencil.Data.Datum
import Stencil.Data.Json
import Stencil.Data.Reader
import Stencil.Data.Table
import Stencil.Data.Toml
import Stencil.Data.Toml.Value
import Stencil.Data.Yaml
import Stencil.Data.Yaml.Flow
import Stencil.Data.Yaml.Scalar
import Stencil.Decimal.Binary
import Stencil.Decimal.Reading
import Stencil.Decimal.Shortest
import Stencil.Decimal.Written
import Stencil.Disk
import Stencil.Disk.Path
import Stencil.Disk.Pattern
import Stencil.Error
import Stencil.Error.Read
import Stencil.Error.Run
import Stencil.Expr
import Stencil.Expr.Grammar
import Stencil.Filter.Apply
import Stencil.Filter.Items
import Stencil.Filter.Kind
import Stencil.Filter.Markup
import Stencil.Halt
import Stencil.Integer
import Stencil.Library
import Stencil.Library.Compile
import Stencil.Loader
import Stencil.Main
import Stencil.Markdown
import Stencil.Markdown.Block
import Stencil.Markdown.Definition
import Stencil.Markdown.Document
import Stencil.Markdown.Emphasis
import Stencil.Markdown.Entity
import Stencil.Markdown.Inline
import Stencil.Markdown.Inline.Read
import Stencil.Markdown.Line
import Stencil.Markdown.Page
import Stencil.Markdown.Scan
import Stencil.Markdown.Start
import Stencil.Markdown.Table
import Stencil.Position
import Stencil.Proofs.Alike.Eval
import Stencil.Proofs.Alike.Exec
import Stencil.Proofs.Alike.Filters
import Stencil.Proofs.Alike.Likeness
import Stencil.Proofs.Alike.Same
import Stencil.Proofs.Alike.Steps
import Stencil.Proofs.Alike.Values
import Stencil.Proofs.Check
import Stencil.Proofs.Comment
import Stencil.Proofs.Ending
import Stencil.Proofs.Escaping
import Stencil.Proofs.Filters
import Stencil.Proofs.History
import Stencil.Proofs.Isolation
import Stencil.Proofs.Keeping
import Stencil.Proofs.Lookup
import Stencil.Proofs.Reading.Expr
import Stencil.Proofs.Reading.Asked
import Stencil.Proofs.Reading.Compile
import Stencil.Proofs.Reading.Draft
import Stencil.Proofs.Reading.Quiet
import Stencil.Proofs.Reading.Sections
import Stencil.Proofs.Reading.Quotes
import Stencil.Proofs.Reading.Tags
import Stencil.Proofs.Render.Fuel
import Stencil.Proofs.Render.Uphold
import Stencil.Proofs.Render.Points
import Stencil.Proofs.Render.Respect
import Stencil.Proofs.Render.Tree
import Stencil.Proofs.Rules
import Stencil.Proofs.Sandbox
import Stencil.Proofs.Scanning.Account
import Stencil.Proofs.Scanning.Layout
import Stencil.Proofs.Scanning.Marks
import Stencil.Proofs.Scanning.Places
import Stencil.Proofs.Scanning.Spelling
import Stencil.Proofs.Scanning.Settle
import Stencil.Proofs.Scanning.Unique
import Stencil.Proofs.Serial.Nodes
import Stencil.Proofs.Serial.Draft
import Stencil.Proofs.Settled
import Stencil.Proofs.Streaming
import Stencil.Proofs.Super
import Stencil.Proofs.Table
import Stencil.Proofs.Text.Parts
import Stencil.Proofs.Text.Plain
import Stencil.Proofs.Values
import Stencil.Proofs.Walk
import Stencil.Proofs.Writing.Document
import Stencil.Proofs.Writing.Drafts
import Stencil.Proofs.Writing.Expr
import Stencil.Proofs.Writing.Levels
import Stencil.Proofs.Writing.Operands
import Stencil.Proofs.Writing.Grammar
import Stencil.Proofs.Writing.Heads
import Stencil.Proofs.Writing.Nodes
import Stencil.Proofs.Writing.Source
import Stencil.Proofs.Writing.Tags
import Stencil.Registry
import Stencil.Render.Chain
import Stencil.Render.Eval
import Stencil.Render.Exec
import Stencil.Render.Loop
import Stencil.Render.State
import Stencil.Settings
import Stencil.Settings.Read
import Stencil.Tag
import Stencil.Template
import Stencil.Template.Draft
import Stencil.Text.Basic
import Stencil.Text.Case
import Stencil.Text.CaseRule
import Stencil.Text.Class
import Stencil.Text.Escape
import Stencil.Text.Layout
import Stencil.Text.Property.Alphanumeric
import Stencil.Text.Property.Casing
import Stencil.Text.Property.Mark
import Stencil.Text.Property.Punctuation
import Stencil.Text.Property.Unprintable
import Stencil.Text.Quoted
import Stencil.Text.Ranges
import Stencil.Text.Slug
import Stencil.Text.Tags
import Stencil.Token
import Stencil.Token.Scan
import Stencil.Token.Tokenize
import Stencil.Value
import Stencil.Value.Arithmetic
import Stencil.Value.Basic
import Stencil.Value.Inspect
import Stencil.Value.Order
import Stencil.Value.Path
import Stencil.Value.Signature
import Stencil.Proofs.Alike.Narrow
import Stencil.Proofs.Linking
import Stencil.Proofs.Nesting.Derived
import Stencil.Proofs.Nesting.Limits
import Stencil.Proofs.Nesting.Height
import Stencil.Proofs.Scanning.Excerpt
import Stencil.Proofs.BlockOptions
import Stencil.Proofs.Within.Vocabulary
import Stencil.Proofs.Within.Likeness
import Stencil.Proofs.Within.Carry
import Stencil.Proofs.Within.Exec
import Stencil.Proofs.Within.Reading
import Stencil.Proofs.Within.Tags
import Stencil.Proofs.Within.Texts
import Stencil.Proofs.Within.Furnish
import Stencil.Proofs.Within.Stages
import Stencil.Proofs.Within.Sound
import Stencil.Proofs.Within.Involved
import Stencil.Proofs.Inlining
import Stencil.Proofs.Importing
import Stencil.Proofs.Located
import Stencil.Proofs.Confinement
import Stencil.Proofs.Optional
import Stencil.Proofs.Shown
import Stencil.Proofs.Signatures
import Stencil.Proofs.Integers
import Stencil.Proofs.Stripping
import Stencil.Proofs.Sorting
import Stencil.Proofs.Render.Sparing
import Stencil.Proofs.Render.Rounds
import Stencil.Proofs.Loops
import Stencil.Proofs.Lossless
import Stencil.Proofs.Data
import Stencil.Proofs.Slices
import Stencil.Proofs.Fitting
import Stencil.Proofs.Gaps
import Stencil.Proofs.Groups
