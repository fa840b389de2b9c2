import FieldRules.Calendar.Date
import FieldRules.Calendar.Instant
import FieldRules.Calendar.Text
import FieldRules.Check.Chain
import FieldRules.Check.Event
import FieldRules.Check.Session
import FieldRules.Check.Validator
import FieldRules.Check.Verdict
import FieldRules.Check.Walk
import FieldRules.Document.Node
import FieldRules.Document.Rules
import FieldRules.Interval.Basic
import FieldRules.Interval.Parse
import FieldRules.Json.Basic
import FieldRules.Json.Number
import FieldRules.Json.Text
import FieldRules.Number.Binary
import FieldRules.Number.Decimal
import FieldRules.Number.Numeral
import FieldRules.Number.Shortest
import FieldRules.Pattern.Ast
import FieldRules.Pattern.Compile
import FieldRules.Pattern.Encoding
import FieldRules.Pattern.Expr
import FieldRules.Pattern.Footprint
import FieldRules.Pattern.Form
import FieldRules.Pattern.Parse
import FieldRules.Pattern.Resolve
import FieldRules.Pattern.Search
import FieldRules.Rule.Basic
import FieldRules.Rule.Entry
import FieldRules.Rule.Literals
import FieldRules.Rule.Matcher
import FieldRules.Sample.Account
import FieldRules.Sample.Fixture
import FieldRules.Schema
import FieldRules.Store.Buckets
import FieldRules.Store.Dictionary
import FieldRules.Store.Index
import FieldRules.Store.Registry
import FieldRules.Store.RuleBook
import FieldRules.Text.Blank
import FieldRules.Text.Occurrence
import FieldRules.Text.Quoted
import FieldRules.Unicode.Age
import FieldRules.Unicode.Binary
import FieldRules.Unicode.Category
import FieldRules.Unicode.Derived
import FieldRules.Unicode.Folding
import FieldRules.Unicode.Property
import FieldRules.Unicode.Recent
import FieldRules.Unicode.Runs
import FieldRules.Unicode.Script
import FieldRules.Unicode.Segment
import FieldRules.Unicode.Spans
import FieldRules.Value
import FieldRules.Yaml.Cursor
import FieldRules.Yaml.Meaning
import FieldRules.Yaml.Scalar
import FieldRules.Yaml.Tag
import FieldRules.Yaml.Text
import FieldRules.Yaml.Token
import FieldRules.Yaml.Tree
import FieldRules.Proofs.Text.Reading
import FieldRules.Proofs.Text.Trimming
import FieldRules.Proofs.Text.ByteOrder
import FieldRules.Proofs.Text.Occurrence
import FieldRules.Proofs.Calendar.Days
import FieldRules.Proofs.Calendar.ReadBack
import FieldRules.Proofs.Number.Nearest
import FieldRules.Proofs.Number.ReadBack
import FieldRules.Proofs.Number.Order
import FieldRules.Proofs.Number.Characters
import FieldRules.Proofs.Store.Registration
import FieldRules.Proofs.Store.Shelves
import FieldRules.Proofs.Store.Tiers
import FieldRules.Proofs.Store.Log
import FieldRules.Proofs.Declared
import FieldRules.Proofs.Walk.Run
import FieldRules.Proofs.Walk.Growth
import FieldRules.Proofs.Walk.Failure
import FieldRules.Proofs.Walk.Added
import FieldRules.Proofs.Walk.Met
import FieldRules.Proofs.Walk.Work
import FieldRules.Proofs.Walk.Abreast
import FieldRules.Proofs.Walk.Ending
import FieldRules.Proofs.Walk.EntryPoints
import FieldRules.Proofs.Walk.Sequence
import FieldRules.Proofs.History.Request
import FieldRules.Proofs.History.Timeless
import FieldRules.Proofs.History.Twin
import FieldRules.Proofs.History.Book
import FieldRules.Proofs.History.Disabled
import FieldRules.Proofs.History.Closure
import FieldRules.Proofs.History.Laws
import FieldRules.Proofs.Direct.Interpreter
import FieldRules.Proofs.Direct.Refinement
import FieldRules.Proofs.Direct.Isolation
import FieldRules.Proofs.Trace.Visits
import FieldRules.Proofs.Trace.Shape
import FieldRules.Proofs.Interval.Parsed
import FieldRules.Proofs.Interval.Epoch
import FieldRules.Proofs.Interval.Exact
import FieldRules.Proofs.Interval.Formed
import FieldRules.Proofs.Interval.Layout
import FieldRules.Proofs.Interval.Spacing
import FieldRules.Proofs.Interval.Grammar
import FieldRules.Proofs.Interval.Printed
import FieldRules.Proofs.Interval.Meaning
import FieldRules.Proofs.Pattern.Positions
import FieldRules.Proofs.Pattern.Search
import FieldRules.Proofs.Pattern.Counts
import FieldRules.Proofs.Pattern.Closing
import FieldRules.Proofs.Pattern.Pieces
import FieldRules.Proofs.Pattern.Between
import FieldRules.Proofs.Pattern.Anchored
import FieldRules.Proofs.Rule.Token
import FieldRules.Proofs.Rule.Distinct
import FieldRules.Proofs.Rule.Representation
import FieldRules.Proofs.Rule.Point
import FieldRules.Proofs.Document.Integer
import FieldRules.Proofs.Document.Conversion
import FieldRules.Proofs.Rule.Integer
import FieldRules.Proofs.History.FirstFault
import FieldRules.Proofs.History.Quiet
import FieldRules.Proofs.History.Retry
import FieldRules.Proofs.History.Unread
import FieldRules.Proofs.History.Legible
import FieldRules.Proofs.History.Ahead
import FieldRules.Proofs.History.Selection
import FieldRules.Proofs.Sample.Graph
import FieldRules.Proofs.Sample.Fixture
import FieldRules.Proofs.Walk.Moments
import FieldRules.Proofs.Walk.Stack
import FieldRules.Proofs.Text.Slice
import FieldRules.Proofs.Interval.Bytes
