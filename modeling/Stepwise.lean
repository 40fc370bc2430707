import Stepwise.Activity.Behaviour
import Stepwise.Activity.Executor
import Stepwise.Activity.Invocation
import Stepwise.Activity.Journal
import Stepwise.CommandLine.Arguments
import Stepwise.CommandLine.Run
import Stepwise.Condition.Evaluation
import Stepwise.Condition.Operator
import Stepwise.Condition.Test
import Stepwise.Double.Basic
import Stepwise.Double.Decimal
import Stepwise.Double.Text
import Stepwise.Duration
import Stepwise.Engine
import Stepwise.Entries
import Stepwise.Error
import Stepwise.Fetch.Provider
import Stepwise.Fetch.Select
import Stepwise.Json.Basic
import Stepwise.Json.Document
import Stepwise.Json.Equality
import Stepwise.Json.Path
import Stepwise.Json.Printer
import Stepwise.Machine.Basic
import Stepwise.Machine.Run
import Stepwise.Machine.Snapshot
import Stepwise.Main
import Stepwise.Options
import Stepwise.Pattern.Bracket
import Stepwise.Pattern.Escape
import Stepwise.Pattern.Expr
import Stepwise.Pattern.Fault
import Stepwise.Pattern.Flags
import Stepwise.Pattern.Match
import Stepwise.Pattern.Reading
import Stepwise.Pattern.Size
import Stepwise.Projection
import Stepwise.Proofs.Activity.Finality
import Stepwise.Proofs.Condition.Alike
import Stepwise.Proofs.Condition.Boolean
import Stepwise.Proofs.Condition.Numbers
import Stepwise.Proofs.Condition.Order
import Stepwise.Proofs.Condition.Unknown
import Stepwise.Proofs.Denoting
import Stepwise.Proofs.Double.Shortest
import Stepwise.Proofs.Duration
import Stepwise.Proofs.Duration.Grammar
import Stepwise.Proofs.Engine
import Stepwise.Proofs.Entries
import Stepwise.Proofs.Faults
import Stepwise.Proofs.Fetch.Delegation
import Stepwise.Proofs.Fetch.Nesting
import Stepwise.Proofs.Fetch.Select
import Stepwise.Proofs.Json.Depth
import Stepwise.Proofs.Json.Document
import Stepwise.Proofs.Json.Equality
import Stepwise.Proofs.Json.Numeral
import Stepwise.Proofs.Json.Path
import Stepwise.Proofs.Json.Range
import Stepwise.Proofs.Json.Room
import Stepwise.Proofs.Json.Text
import Stepwise.Proofs.Json.Written
import Stepwise.Proofs.Machine.Bounds
import Stepwise.Proofs.Machine.Consistency
import Stepwise.Proofs.Machine.Depth
import Stepwise.Proofs.Machine.Ending
import Stepwise.Proofs.Machine.Imports
import Stepwise.Proofs.Machine.Independence
import Stepwise.Proofs.Machine.Interruption
import Stepwise.Proofs.Machine.Portability
import Stepwise.Proofs.Machine.Restoring
import Stepwise.Proofs.Machine.Retry
import Stepwise.Proofs.Machine.Sequential
import Stepwise.Proofs.Machine.Snapshot
import Stepwise.Proofs.Machine.Stepping
import Stepwise.Proofs.Machine.Text
import Stepwise.Proofs.Mentions
import Stepwise.Proofs.NormalForm
import Stepwise.Proofs.Projection
import Stepwise.Proofs.Projection.Element
import Stepwise.Proofs.Reading
import Stepwise.Proofs.Template
import Stepwise.Proofs.Template.Layout
import Stepwise.Proofs.Template.Structure
import Stepwise.Proofs.Text
import Stepwise.Proofs.Validation.Names
import Stepwise.Proofs.Validation.Operators
import Stepwise.Proofs.Validation.Placeholders
import Stepwise.Proofs.Validation.Providers
import Stepwise.Proofs.Workflow
import Stepwise.Reading.Json
import Stepwise.Reading.Options
import Stepwise.Reading.Source
import Stepwise.Settings.Basic
import Stepwise.Settings.Layers
import Stepwise.Settings.Load
import Stepwise.Settings.Path
import Stepwise.Settings.Value
import Stepwise.Settings.VariableFile
import Stepwise.Surroundings
import Stepwise.Template
import Stepwise.Text.Blank
import Stepwise.Text.Numeral
import Stepwise.Text.Pieces
import Stepwise.Text.Quoted
import Stepwise.Text.Sha256
import Stepwise.Toml.Document
import Stepwise.Toml.Moment
import Stepwise.Toml.Number
import Stepwise.Toml.Quoted
import Stepwise.Toml.Source
import Stepwise.Toml.Table
import Stepwise.Toml.Value
import Stepwise.Unicode.Age
import Stepwise.Unicode.Alphanumeric
import Stepwise.Unicode.Break
import Stepwise.Unicode.CaseFold
import Stepwise.Unicode.Category
import Stepwise.Unicode.CharSet
import Stepwise.Unicode.Hidden
import Stepwise.Unicode.LowerCase
import Stepwise.Unicode.Property
import Stepwise.Unicode.Script
import Stepwise.Unicode.Utf8
import Stepwise.Validation.Builtin
import Stepwise.Validation.Names
import Stepwise.Validation.Operators
import Stepwise.Validation.Rule
import Stepwise.Vars
import Stepwise.Workflow.Basic
import Stepwise.Workflow.Input
import Stepwise.Workflow.Version
import Stepwise.Workflow.Wire
