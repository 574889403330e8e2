import GameShelf.Binary64.Basic
import GameShelf.Binary64.Decimal
import GameShelf.Binary64.Rounding
import GameShelf.Binary64.Shortest
import GameShelf.Catalog.Basic
import GameShelf.Catalog.Record
import GameShelf.Catalog.Score
import GameShelf.Column
import GameShelf.CommandLine.Arguments
import GameShelf.CommandLine.Environment
import GameShelf.CommandLine.Failure
import GameShelf.CommandLine.Level
import GameShelf.CommandLine.Run
import GameShelf.Display.Cell
import GameShelf.Display.Columns
import GameShelf.Display.Games
import GameShelf.Display.Ink
import GameShelf.Display.Shortlist
import GameShelf.Files.FileError
import GameShelf.Files.FileTree
import GameShelf.Files.Machine
import GameShelf.Files.Node
import GameShelf.Files.Path
import GameShelf.Files.Task
import GameShelf.Files.World
import GameShelf.Filter.Clause
import GameShelf.Filter.Operator
import GameShelf.Filter.Predicate
import GameShelf.Filter.Suggestion
import GameShelf.Game
import GameShelf.Json.Basic
import GameShelf.Json.Numeral
import GameShelf.Json.Quoted
import GameShelf.Json.Reader
import GameShelf.Json.Token
import GameShelf.Main
import GameShelf.Planner
import GameShelf.Proofs.Binary64.Decimal
import GameShelf.Proofs.Binary64.Rounding
import GameShelf.Proofs.Binary64.Shortest
import GameShelf.Proofs.Binary64.WholeNumber
import GameShelf.Proofs.Catalog.Reload
import GameShelf.Proofs.Catalog.Score
import GameShelf.Proofs.Display.Cells
import GameShelf.Proofs.Display.Colors
import GameShelf.Proofs.Display.Lines
import GameShelf.Proofs.Display.Reading
import GameShelf.Proofs.Files.Outline
import GameShelf.Proofs.Files.Storing
import GameShelf.Proofs.Filter.Canonical
import GameShelf.Proofs.Filter.Containment
import GameShelf.Proofs.Filter.Expression
import GameShelf.Proofs.Filter.Grammar
import GameShelf.Proofs.Filter.Literal
import GameShelf.Proofs.Filter.Suggestion
import GameShelf.Proofs.Filter.WholeNumber
import GameShelf.Proofs.Json.Numeral
import GameShelf.Proofs.Json.Quoted
import GameShelf.Proofs.Json.Reading
import GameShelf.Proofs.Ordering.Arrangement
import GameShelf.Proofs.Ordering.Comparison
import GameShelf.Proofs.Ordering.Reversal
import GameShelf.Proofs.Planner.History
import GameShelf.Proofs.Planner.Interchange
import GameShelf.Proofs.Planner.Narrowing
import GameShelf.Proofs.Planner.Opposites
import GameShelf.Proofs.Planner.Parts
import GameShelf.Proofs.Planner.Rereading
import GameShelf.Proofs.Session.OneShot
import GameShelf.Proofs.Session.Positions
import GameShelf.Proofs.Session.SavedFiles
import GameShelf.Proofs.Session.Screen
import GameShelf.Proofs.Session.Thinning
import GameShelf.Proofs.Session.Wording
import GameShelf.Proofs.Settings.Changes
import GameShelf.Proofs.Settings.Document
import GameShelf.Proofs.Settings.Replacement
import GameShelf.Proofs.Shortlist.Addition
import GameShelf.Proofs.Shortlist.Bounds
import GameShelf.Proofs.Shortlist.History
import GameShelf.Proofs.Shortlist.Keyed
import GameShelf.Proofs.Shortlist.NameOrder
import GameShelf.Proofs.Shortlist.Ranges
import GameShelf.Proofs.Shortlist.Removal
import GameShelf.Proofs.Shortlist.SavedText
import GameShelf.Proofs.Shortlist.Saving
import GameShelf.Proofs.Shortlist.Spelling
import GameShelf.Proofs.Text.Caseless
import GameShelf.Proofs.Text.EditDistance
import GameShelf.Proofs.Text.Positions
import GameShelf.Proofs.Text.Width
import GameShelf.Proofs.Text.WordEnd
import GameShelf.Proofs.Toml.Quoted
import GameShelf.Proofs.Toml.QuotedForm
import GameShelf.Session.Basic
import GameShelf.Session.Command
import GameShelf.Session.Script
import GameShelf.Settings.Basic
import GameShelf.Settings.File
import GameShelf.Shortlist.Basic
import GameShelf.Shortlist.Export
import GameShelf.Shortlist.Selection
import GameShelf.SortOrder
import GameShelf.Text.Blank
import GameShelf.Text.Digits
import GameShelf.Text.EditDistance
import GameShelf.Text.LetterCase
import GameShelf.Text.Lowercase
import GameShelf.Text.Splitting
import GameShelf.Text.Width
import GameShelf.Toml.Quoted
import GameShelf.Toml.QuotedForm
import GameShelf.Toml.Reader
import GameShelf.Toml.Table
import GameShelf.Toml.Word
