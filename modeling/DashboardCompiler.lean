import DashboardCompiler.CommandLine.Command
import DashboardCompiler.CommandLine.Generate
import DashboardCompiler.CommandLine.Outcome
import DashboardCompiler.CommandLine.Run
import DashboardCompiler.CommandLine.Switch
import DashboardCompiler.CommandLine.Validate
import DashboardCompiler.Config.Basic
import DashboardCompiler.Config.Loading
import DashboardCompiler.Console.Panel
import DashboardCompiler.Console.Printed
import DashboardCompiler.Console.Table
import DashboardCompiler.Design.Address
import DashboardCompiler.Design.Basic
import DashboardCompiler.Design.Catalogue
import DashboardCompiler.Design.Dump
import DashboardCompiler.Design.Kinds
import DashboardCompiler.Design.Loading
import DashboardCompiler.Design.Properties
import DashboardCompiler.Design.Reading
import DashboardCompiler.Design.SourceTable
import DashboardCompiler.Design.Validation
import DashboardCompiler.Display.Behavior
import DashboardCompiler.Display.Format
import DashboardCompiler.Display.Glyphs
import DashboardCompiler.Display.Literal
import DashboardCompiler.Display.Palette
import DashboardCompiler.Display.Plot
import DashboardCompiler.Display.Sample
import DashboardCompiler.Double.Arithmetic
import DashboardCompiler.Double.Basic
import DashboardCompiler.Double.Decimal
import DashboardCompiler.Double.Notation
import DashboardCompiler.Emoji.Codes
import DashboardCompiler.Emoji.Names
import DashboardCompiler.Generation.Generator
import DashboardCompiler.Generation.Options
import DashboardCompiler.Generation.Project
import DashboardCompiler.Generation.Scene
import DashboardCompiler.Generation.Target
import DashboardCompiler.Json.Basic
import DashboardCompiler.Json.Reader
import DashboardCompiler.Json.Writer
import DashboardCompiler.Main
import DashboardCompiler.Number
import DashboardCompiler.Placement.Box
import DashboardCompiler.Placement.Grid
import DashboardCompiler.Placement.Lint
import DashboardCompiler.Placement.Search
import DashboardCompiler.Placement.Session
import DashboardCompiler.Proofs.Design.Acceptance
import DashboardCompiler.Proofs.Design.References
import DashboardCompiler.Proofs.Design.RoundTrip
import DashboardCompiler.Proofs.Double.Overflow
import DashboardCompiler.Proofs.Except
import DashboardCompiler.Proofs.Generation.Imports
import DashboardCompiler.Proofs.Generation.Layout
import DashboardCompiler.Proofs.Generation.Sources
import DashboardCompiler.Proofs.Generation.Texts
import DashboardCompiler.Proofs.Generation.Totality
import DashboardCompiler.Proofs.Generation.Wiring
import DashboardCompiler.Proofs.Json.Writer
import DashboardCompiler.Proofs.Placement.Session
import DashboardCompiler.Proofs.Schema.Checked
import DashboardCompiler.Proofs.Schema.Readers
import DashboardCompiler.Proofs.Target.Blessed.Code
import DashboardCompiler.Proofs.Target.BubbleTea.Code
import DashboardCompiler.Proofs.Target.Headers
import DashboardCompiler.Proofs.Target.Overflow
import DashboardCompiler.Proofs.Target.Rows
import DashboardCompiler.Proofs.Target.Sections
import DashboardCompiler.Proofs.Target.Wiring
import DashboardCompiler.Proofs.Text.CodeScan
import DashboardCompiler.Proofs.Text.Lines
import DashboardCompiler.Proofs.Text.Naming
import DashboardCompiler.Proofs.Text.Quoted
import DashboardCompiler.Proofs.Text.Tidy
import DashboardCompiler.Schema.Checked
import DashboardCompiler.Schema.Fields
import DashboardCompiler.Schema.Named
import DashboardCompiler.Schema.Problem
import DashboardCompiler.Schema.Scalar
import DashboardCompiler.Storage.FileTree
import DashboardCompiler.Storage.Path
import DashboardCompiler.Target.All
import DashboardCompiler.Target.Blessed.DataSources
import DashboardCompiler.Target.Blessed.Helpers
import DashboardCompiler.Target.Blessed.Literal
import DashboardCompiler.Target.Blessed.Program
import DashboardCompiler.Target.Blessed.Widget
import DashboardCompiler.Target.BubbleTea.DataSources
import DashboardCompiler.Target.BubbleTea.Helpers
import DashboardCompiler.Target.BubbleTea.Literal
import DashboardCompiler.Target.BubbleTea.Program
import DashboardCompiler.Target.BubbleTea.Widget
import DashboardCompiler.Target.Ratatui.Color
import DashboardCompiler.Target.Ratatui.DataSources
import DashboardCompiler.Target.Ratatui.Helpers
import DashboardCompiler.Target.Ratatui.Literal
import DashboardCompiler.Target.Ratatui.Program
import DashboardCompiler.Target.Ratatui.Uses
import DashboardCompiler.Target.Ratatui.Widget
import DashboardCompiler.Target.Textual.DataSources
import DashboardCompiler.Target.Textual.Helpers
import DashboardCompiler.Target.Textual.Literal
import DashboardCompiler.Target.Textual.Program
import DashboardCompiler.Target.Textual.Widget
import DashboardCompiler.Text.CodeScan
import DashboardCompiler.Text.Comment
import DashboardCompiler.Text.Decoded
import DashboardCompiler.Text.Find
import DashboardCompiler.Text.Lines
import DashboardCompiler.Text.Naming
import DashboardCompiler.Text.Quoted
import DashboardCompiler.Toml.Basic
import DashboardCompiler.Toml.Blank
import DashboardCompiler.Toml.Quoted
import DashboardCompiler.Toml.Reader
import DashboardCompiler.Toml.Scalar
import DashboardCompiler.Toml.Table
import DashboardCompiler.Unicode.Blank
import DashboardCompiler.Unicode.Case
import DashboardCompiler.Unicode.Digit
import DashboardCompiler.Unicode.Printable
import DashboardCompiler.Unicode.Ranges
import DashboardCompiler.Unicode.Width
import DashboardCompiler.Unicode.Word
import DashboardCompiler.Proofs.Target.Ratatui.Code
import DashboardCompiler.Proofs.Target.Textual.Code
import DashboardCompiler.Proofs.Generation.LineCount
import DashboardCompiler.Proofs.Generation.Identifiers
import DashboardCompiler.Proofs.Text.Declarations
import DashboardCompiler.Proofs.Target.Types
import DashboardCompiler.Proofs.Target.BubbleTea.Types
import DashboardCompiler.Proofs.Target.Ratatui.Types
import DashboardCompiler.Proofs.Generation.Types
import DashboardCompiler.Proofs.Text.LongLiteral
import DashboardCompiler.Proofs.Target.Textual.StyleSheet
import DashboardCompiler.Proofs.Placement.Lint
import DashboardCompiler.Proofs.Target.BubbleTea.Constructors
import DashboardCompiler.Proofs.Text.Spelling
import DashboardCompiler.Proofs.Target.Textual.Addresses
import DashboardCompiler.Proofs.Text.Listings
import DashboardCompiler.Proofs.Generation.Files
import DashboardCompiler.Proofs.Target.Blessed.Links
import DashboardCompiler.Proofs.Target.Ratatui.Links
import DashboardCompiler.Proofs.Target.BubbleTea.Links
import DashboardCompiler.Proofs.Target.Textual.Links
import DashboardCompiler.Proofs.Generation.Links
import DashboardCompiler.Proofs.Text.Joins
import DashboardCompiler.Proofs.Target.Ratatui.UseOrder
import DashboardCompiler.Proofs.Target.Ratatui.Determinism
import DashboardCompiler.Proofs.Generation.Agreement
import DashboardCompiler.Proofs.Storage.FileTree
import DashboardCompiler.Proofs.Json.Reader
import DashboardCompiler.Proofs.CommandLine.Generate
import DashboardCompiler.Proofs.CommandLine.Loading
import DashboardCompiler.Proofs.Config.Loading
import DashboardCompiler.Proofs.Target.BubbleTea.DrawingOrder
import DashboardCompiler.Proofs.Generation.Simulation
import DashboardCompiler.Proofs.Text.Comments
import DashboardCompiler.Proofs.Target.Comments
import DashboardCompiler.Proofs.Generation.Comments
import DashboardCompiler.Proofs.Placement.Search
import DashboardCompiler.Proofs.Double.Rounding
import DashboardCompiler.Proofs.Double.Shortest
import DashboardCompiler.Proofs.Double.Numeral
import DashboardCompiler.Proofs.Design.Ranges
import DashboardCompiler.Proofs.Target.Ranges
import DashboardCompiler.Proofs.Generation.RawProperties
import DashboardCompiler.Proofs.Schema.Spellings
import DashboardCompiler.Proofs.Design.Spellings
import DashboardCompiler.Proofs.Generation.Spellings
import DashboardCompiler.Proofs.Placement.Monotone
import DashboardCompiler.Proofs.Text.ReadLiterals
import DashboardCompiler.Proofs.Target.Ratatui.StaticValues
import DashboardCompiler.Proofs.Target.QuotedText
import DashboardCompiler.Proofs.Text.NameForms
import DashboardCompiler.Proofs.Target.Ratatui.Colors
import DashboardCompiler.Proofs.Design.Addresses
import DashboardCompiler.Proofs.Text.CommentText
import DashboardCompiler.Proofs.Double.Accuracy
import DashboardCompiler.Proofs.Placement.Snap
import DashboardCompiler.Proofs.Design.CanonicalProperties
import DashboardCompiler.Proofs.Target.BubbleTea.StaticValues
import DashboardCompiler.Proofs.Number
import DashboardCompiler.Proofs.Double.Shares
import DashboardCompiler.Proofs.Display.Sparkline
import DashboardCompiler.Proofs.Display.Gauge
import DashboardCompiler.Proofs.Display.Readouts
import DashboardCompiler.Proofs.Display.Bands
import DashboardCompiler.Proofs.Display.Progress
import DashboardCompiler.Proofs.Generation.Nesting
import DashboardCompiler.Proofs.Target.Ratatui.UseMerging
import DashboardCompiler.Proofs.Text.Passages
import DashboardCompiler.Proofs.Target.Textual.Imports
import DashboardCompiler.Proofs.Generation.ClockImport
