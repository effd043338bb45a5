import TolerantValidation.Application.Boundary
import TolerantValidation.Application.Error
import TolerantValidation.Calendar.Date
import TolerantValidation.Calendar.DateTime
import TolerantValidation.Calendar.Iso
import TolerantValidation.Document.Fault
import TolerantValidation.Document.Format
import TolerantValidation.Document.Template
import TolerantValidation.Effect
import TolerantValidation.Fault
import TolerantValidation.Issue
import TolerantValidation.Json.Reader
import TolerantValidation.Json.Writer
import TolerantValidation.Json5.Reader
import TolerantValidation.Log.Call
import TolerantValidation.Log.Console
import TolerantValidation.Log.Entry
import TolerantValidation.Log.Line
import TolerantValidation.Log.Pattern
import TolerantValidation.Log.Pattern.Fault
import TolerantValidation.Log.Processor
import TolerantValidation.Log.Session
import TolerantValidation.Log.Setup
import TolerantValidation.Named
import TolerantValidation.Number.Binary64
import TolerantValidation.Number.Fixed
import TolerantValidation.Number.Reading
import TolerantValidation.Number.Shortest
import TolerantValidation.Outcome
import TolerantValidation.Proofs.Effect
import TolerantValidation.Proofs.Validator.Loops
import TolerantValidation.Record.Coercion
import TolerantValidation.Record.Shape
import TolerantValidation.Settings
import TolerantValidation.Settings.EnvironmentFile
import TolerantValidation.Text.Base64
import TolerantValidation.Text.Blank
import TolerantValidation.Text.CodeRange
import TolerantValidation.Text.Digit
import TolerantValidation.Text.Letter
import TolerantValidation.Text.Printable
import TolerantValidation.Text.Quoted
import TolerantValidation.Text.Units
import TolerantValidation.Text.UpperCase
import TolerantValidation.Text.Utf8
import TolerantValidation.Toml.Reader
import TolerantValidation.Toml.Scalar
import TolerantValidation.Toml.Table
import TolerantValidation.Toml.Text
import TolerantValidation.Validator.Basic
import TolerantValidation.Validator.CallShape
import TolerantValidation.Validator.Collection
import TolerantValidation.Validator.Function
import TolerantValidation.Validator.Leaf
import TolerantValidation.Validator.Manifest
import TolerantValidation.Validator.Run
import TolerantValidation.Validator.Sinks
import TolerantValidation.Value.Basic
import TolerantValidation.Value.Cycle
import TolerantValidation.Value.Display
import TolerantValidation.Value.Entries
import TolerantValidation.Value.Equality
import TolerantValidation.Value.Graph
import TolerantValidation.Value.Text
import TolerantValidation.Yaml.Construction
import TolerantValidation.Yaml.Cursor
import TolerantValidation.Yaml.Event
import TolerantValidation.Yaml.Mark
import TolerantValidation.Yaml.Node
import TolerantValidation.Yaml.Reader
import TolerantValidation.Yaml.Scalar
import TolerantValidation.Yaml.Scalar.Meaning
import TolerantValidation.Yaml.Tag
import TolerantValidation.Yaml.Timestamp
import TolerantValidation.Yaml.Token
import TolerantValidation.Yaml.Token.Lexer
import TolerantValidation.Proofs.Validator.Action
import TolerantValidation.Proofs.Validator.Failures
import TolerantValidation.Proofs.Validator.FatalSources
import TolerantValidation.Proofs.Validator.LooseItems
import TolerantValidation.Proofs.Validator.Storing
import TolerantValidation.Proofs.Validator.Conservation
import TolerantValidation.Proofs.Validator.Fatality
import TolerantValidation.Proofs.Validator.Telling
import TolerantValidation.Proofs.Validator.LooseEntries
import TolerantValidation.Proofs.Value.Nesting
import TolerantValidation.Proofs.Value.Comparison
import TolerantValidation.Proofs.Value.Writing
import TolerantValidation.Proofs.Validator.Containment
import TolerantValidation.Proofs.Value.Circularity
import TolerantValidation.Proofs.Value.Graph
import TolerantValidation.Proofs.Validator.Siblings
import TolerantValidation.Proofs.Validator.Conformance
import TolerantValidation.Proofs.Validator.Rejections
import TolerantValidation.Proofs.Validator.IssuePaths
import TolerantValidation.Proofs.Application.Boundary
import TolerantValidation.Proofs.Application.Reporting
import TolerantValidation.Proofs.Json.Acceptance
import TolerantValidation.Proofs.Json.RoundTrip
import TolerantValidation.Proofs.Json5.Gaps
import TolerantValidation.Proofs.Json5.Strings
import TolerantValidation.Proofs.Json5.Numbers
import TolerantValidation.Proofs.Json5.Steps
import TolerantValidation.Proofs.Json5.Agreement
import TolerantValidation.Proofs.Json5.Renderings
import TolerantValidation.Proofs.Json5.Acceptance
import TolerantValidation.Proofs.Calendar.Ordinal
import TolerantValidation.Proofs.Calendar.Utc
import TolerantValidation.Proofs.Calendar.IsoText
import TolerantValidation.Proofs.Calendar.UtcDate
import TolerantValidation.Proofs.Document.Fragments
import TolerantValidation.Proofs.Document.Expressions
import TolerantValidation.Proofs.Document.Leftovers
import TolerantValidation.Proofs.Yaml.Streams
import TolerantValidation.Proofs.Application.Dialects
import TolerantValidation.Proofs.Validator.Embedding
import TolerantValidation.Proofs.Record.Fitting
import TolerantValidation.Proofs.Validator.CallShapes
import TolerantValidation.Proofs.Validator.Manifest
import TolerantValidation.Proofs.Value.Agreement
import TolerantValidation.Proofs.Validator.ExactLiterals
import TolerantValidation.Proofs.Application.Grouping
import TolerantValidation.Proofs.Application.Positions
import TolerantValidation.Proofs.Record.Strictness
import TolerantValidation.Proofs.Log.LatestConfiguration
