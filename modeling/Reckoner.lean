import Reckoner.Text.CodePoint
import Reckoner.Text.Basic
import Reckoner.Text.CodeSet
import Reckoner.Text.Surrogate
import Reckoner.Text.Quoted
import Reckoner.Text.Utf8
import Reckoner.Rounding
import Reckoner.Double.Basic
import Reckoner.Double.Arithmetic
import Reckoner.Double.Shortest
import Reckoner.Double.Layout
import Reckoner.Double.Reader
import Reckoner.Decimal.Basic
import Reckoner.Decimal.Reader
import Reckoner.Decimal.Integer
import Reckoner.Expression.Token
import Reckoner.Expression.Parser
import Reckoner.Display
import Reckoner.Arithmetic
import Reckoner.Json.Basic
import Reckoner.Json.Reader
import Reckoner.Json.Writer
import Reckoner.Json.Bytes
import Reckoner.Calendar.Moment
import Reckoner.Calendar.Span
import Reckoner.History.Column
import Reckoner.History.Log
import Reckoner.Service.Basic
import Reckoner.Service.Local
import Reckoner.Theme
import Reckoner.Web.Host.Classes
import Reckoner.Web.Host.Punycode
import Reckoner.Web.Host.Name
import Reckoner.Web.Host.Literal
import Reckoner.Web.Address
import Reckoner.Web.Message
import Reckoner.Web.Server
import Reckoner.Web.Client
import Reckoner.Calculator.State
import Reckoner.Calculator.Entry
import Reckoner.Calculator.Function
import Reckoner.Calculator.Equals
import Reckoner.Calculator.Button
import Reckoner.Stamps
import Reckoner.Panel.Keypad
import Reckoner.Panel.Basic
import Reckoner.Startup
import Reckoner.Proofs.Calculator.Steps
import Reckoner.Proofs.Calculator.Generation
import Reckoner.Proofs.Calculator.Session
import Reckoner.Proofs.Expression.Grammar
import Reckoner.Proofs.Expression.Rule
import Reckoner.Proofs.Expression.Reading
import Reckoner.Proofs.Expression.Lookahead
import Reckoner.Proofs.Calculator.Run
import Reckoner.Proofs.Calculator.Preview
import Reckoner.Proofs.Decimal.Spelling
import Reckoner.Proofs.Double.Range
import Reckoner.Proofs.Double.Shortest
import Reckoner.Proofs.Display.Finite
import Reckoner.Proofs.Display.Operand
import Reckoner.Proofs.Calculator.Editing
import Reckoner.Proofs.Calculator.Readable
import Reckoner.Proofs.Calculator.Confirm
import Reckoner.Proofs.Calculator.Failure
import Reckoner.Proofs.History.Table
import Reckoner.Proofs.History.Ledger
import Reckoner.Proofs.Service.Local
import Reckoner.Proofs.Web.Route
import Reckoner.Proofs.Web.Acceptance
import Reckoner.Proofs.Web.Agreement
import Reckoner.Proofs.Calculator.Reset
import Reckoner.Proofs.Calculator.Redelivery
import Reckoner.Proofs.Calculator.Typing
import Reckoner.Proofs.Calculator.Chain
import Reckoner.Proofs.Web.Reply
import Reckoner.Proofs.Panel.Backend
import Reckoner.Proofs.Web.Listing
import Reckoner.Proofs.Panel.Settled
import Reckoner.Proofs.Panel.Disabled
import Reckoner.Proofs.Calculator.Logging
import Reckoner.Proofs.Calendar.Date
import Reckoner.Proofs.Text.Order
import Reckoner.Proofs.Calendar.Stamp
import Reckoner.Proofs.History.Retention
import Reckoner.Proofs.History.Capacity
import Reckoner.Proofs.Expression.Scan
import Reckoner.Proofs.Expression.Tokens
import Reckoner.Proofs.Calculator.Operands
import Reckoner.Proofs.Calculator.Typed
import Reckoner.Proofs.Calculator.Carry
import Reckoner.Proofs.Calculator.Containment
import Reckoner.Proofs.Expression.Number
import Reckoner.Proofs.Expression.Opposite
import Reckoner.Proofs.Expression.Longest
import Reckoner.Proofs.Expression.Division
import Reckoner.Proofs.Calculator.Orderly
import Reckoner.Proofs.Calculator.Tidy
import Reckoner.Proofs.Calculator.Composing
import Reckoner.Proofs.Calculator.Negation
import Reckoner.Proofs.Rounding.Nearest
import Reckoner.Proofs.Double.Nearest
import Reckoner.Proofs.Decimal.Value
import Reckoner.Proofs.Decimal.Numeral
import Reckoner.Proofs.Decimal.Truncation
import Reckoner.Proofs.Calculator.Canonical
import Reckoner.Proofs.Display.Quotient
import Reckoner.Proofs.Decimal.Significant
import Reckoner.Proofs.Double.ReadsBack
import Reckoner.Proofs.Decimal.Layout
import Reckoner.Proofs.Display.Result
import Reckoner.Proofs.Display.Stable
import Reckoner.Proofs.Display.Significant
import Reckoner.Proofs.Text.Utf8
import Reckoner.Proofs.Json.Fields
import Reckoner.Proofs.Json.Quoted
import Reckoner.Proofs.Json.Number
import Reckoner.Proofs.Json.Object
import Reckoner.Proofs.Stamps.Cutoff
import Reckoner.Proofs.Stamps.Window
import Reckoner.Proofs.Stamps.File
import Reckoner.Proofs.Stamps.Record
import Reckoner.Proofs.Stamps.Keeping
import Reckoner.Proofs.Stamps.Names
import Reckoner.Proofs.History.Stored
import Reckoner.Proofs.Panel.Rows
import Reckoner.Proofs.Panel.Log
import Reckoner.Proofs.Panel.Listed
