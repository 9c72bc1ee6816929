import Mend.Catalog.Basic
import Mend.Catalog.Builtin
import Mend.Command.Basic
import Mend.Command.Call
import Mend.Command.Help
import Mend.Command.Misuse
import Mend.Command.Run
import Mend.Command.Words
import Mend.Complexity
import Mend.Diagnostic
import Mend.Edit
import Mend.FileTree
import Mend.Hint
import Mend.Json.Basic
import Mend.Json.Printer
import Mend.Json.Reader
import Mend.Log
import Mend.Log.Layout
import Mend.Log.Problem
import Mend.Log.Value
import Mend.Main
import Mend.Model.Account
import Mend.Model.Assistant
import Mend.Model.Availability
import Mend.Model.Price
import Mend.Model.Prompt
import Mend.Model.Proposal
import Mend.Model.Provider
import Mend.Model.Reply
import Mend.Model.Retry
import Mend.Model.Script
import Mend.Model.Settings
import Mend.Model.Settings.Field
import Mend.Number.Basic
import Mend.Number.Binary64
import Mend.Number.Decimal
import Mend.Number.Whole
import Mend.Path
import Mend.Pattern.Basic
import Mend.Pattern.CharSet
import Mend.Pattern.Escape
import Mend.Pattern.Expression
import Mend.Pattern.Flags
import Mend.Pattern.Groups
import Mend.Pattern.Part
import Mend.Pattern.Problem
import Mend.Pattern.Reader
import Mend.Pattern.Replacement
import Mend.Pattern.Search
import Mend.Pattern.Source
import Mend.Proofs.Catalog.Contents
import Mend.Proofs.Catalog.Registration
import Mend.Proofs.Catalog.Selection
import Mend.Proofs.Catalog.Widening
import Mend.Proofs.Command.Call
import Mend.Proofs.Command.Run
import Mend.Proofs.Complexity
import Mend.Proofs.Edit.Record
import Mend.Proofs.Edit.Replay
import Mend.Proofs.Json.Fields
import Mend.Proofs.Json.Grammar
import Mend.Proofs.Json.Numbers
import Mend.Proofs.Json.Quotes
import Mend.Proofs.Json.Reading
import Mend.Proofs.Json.Strings
import Mend.Proofs.Log.Form
import Mend.Proofs.Model.Account
import Mend.Proofs.Model.Attempts
import Mend.Proofs.Model.Exchange
import Mend.Proofs.Model.Fence
import Mend.Proofs.Model.Outcome
import Mend.Proofs.Model.Prompt
import Mend.Proofs.Model.Refusal
import Mend.Proofs.Model.Reply
import Mend.Proofs.Model.Retry
import Mend.Proofs.Model.Settings
import Mend.Proofs.Model.Wrapping
import Mend.Proofs.Number.Binary64
import Mend.Proofs.Number.Order
import Mend.Proofs.Path
import Mend.Proofs.Pattern.Consumption
import Mend.Proofs.Pattern.Literal
import Mend.Proofs.Pattern.Matching
import Mend.Proofs.Pattern.Phrasing
import Mend.Proofs.Pattern.PhrasingSource
import Mend.Proofs.Pattern.Replacement
import Mend.Proofs.Pattern.Takes
import Mend.Proofs.Screen.Escaping
import Mend.Proofs.Screen.Markup
import Mend.Proofs.Screen.Panel
import Mend.Proofs.Screen.Report
import Mend.Proofs.Screen.Tokens
import Mend.Proofs.Screen.Wrapping
import Mend.Proofs.Strategy.Attempt
import Mend.Proofs.Strategy.Balance
import Mend.Proofs.Strategy.Blocks
import Mend.Proofs.Strategy.Confinement
import Mend.Proofs.Strategy.Declaration
import Mend.Proofs.Strategy.Faithful
import Mend.Proofs.Strategy.ImportLine
import Mend.Proofs.Strategy.LineEndings
import Mend.Proofs.Strategy.LineRepair
import Mend.Proofs.Strategy.Mentions
import Mend.Proofs.Strategy.Once
import Mend.Proofs.Strategy.QuotedName
import Mend.Proofs.Strategy.Removal
import Mend.Proofs.Strategy.Replay
import Mend.Proofs.Strategy.Resolution
import Mend.Proofs.Strategy.Rewriting
import Mend.Proofs.Strategy.Rounds
import Mend.Proofs.Strategy.Settling
import Mend.Proofs.Strategy.StopLine
import Mend.Proofs.Tally
import Mend.Proofs.Tally.Calls
import Mend.Proofs.Tally.Order
import Mend.Proofs.Template
import Mend.Proofs.Text.Bytes
import Mend.Proofs.Text.LineEndings
import Mend.Proofs.Text.Lines
import Mend.Proofs.Text.Lowercase
import Mend.Proofs.Text.Occurrence
import Mend.Proofs.Text.Trimming
import Mend.Proofs.Text.Width
import Mend.Proofs.Workshop.Alone
import Mend.Proofs.Workshop.Batch
import Mend.Proofs.Workshop.Course
import Mend.Proofs.Workshop.Dispatch
import Mend.Proofs.Workshop.Loss
import Mend.Proofs.Workshop.Origin
import Mend.Proofs.Workshop.Pool
import Mend.Proofs.Workshop.Schedule
import Mend.Proofs.Workshop.Session
import Mend.Proofs.Workshop.WellFormed
import Mend.Proofs.Workshop.Written
import Mend.Report
import Mend.Screen.Color
import Mend.Screen.Markup
import Mend.Screen.Panel
import Mend.Screen.Plain
import Mend.Screen.Runs
import Mend.Screen.Style
import Mend.Screen.StyledText
import Mend.Screen.Table
import Mend.Screen.Theme
import Mend.Screen.View
import Mend.Strategy.Attempt
import Mend.Strategy.Basic
import Mend.Strategy.Blanks
import Mend.Strategy.Brackets
import Mend.Strategy.Extension
import Mend.Strategy.MissingName
import Mend.Strategy.Statement
import Mend.Strategy.Terminator
import Mend.Strategy.Unreachable
import Mend.Strategy.Unused
import Mend.Tally
import Mend.Template
import Mend.Text.CharName
import Mend.Text.CharName.OldScripts
import Mend.Text.CharName.Pictures
import Mend.Text.CharName.Scripts
import Mend.Text.CharName.Syllables
import Mend.Text.CharName.Symbols
import Mend.Text.Cluster
import Mend.Text.Fold
import Mend.Text.Kind
import Mend.Text.Lines
import Mend.Text.Lowercase
import Mend.Text.Name
import Mend.Text.Quoted
import Mend.Text.Search
import Mend.Text.Similar
import Mend.Text.Trim
import Mend.Text.Utf8
import Mend.Text.Width
import Mend.Workshop
