import Runbook.Alarm.Binding
import Runbook.Alarm.Error
import Runbook.Alarm.Manager
import Runbook.Alarm.Metric
import Runbook.Alarm.Ports
import Runbook.Alarm.Record
import Runbook.Alarm.Service
import Runbook.Alarm.StackName
import Runbook.Alarm.Template
import Runbook.Assembly.Assembler
import Runbook.Assembly.Builder
import Runbook.Assembly.Error
import Runbook.Assembly.Placeholder
import Runbook.Assembly.Snippet
import Runbook.Audit
import Runbook.CommandLine.Argument
import Runbook.CommandLine.Failure
import Runbook.CommandLine.Request
import Runbook.CommandLine.Run
import Runbook.Decimal.Binary64
import Runbook.Decimal.Shortest
import Runbook.Document
import Runbook.ErrorCode
import Runbook.FileTree
import Runbook.Json.Basic
import Runbook.Json.Printer
import Runbook.Json.Reader
import Runbook.Json.Record
import Runbook.Log.Filter
import Runbook.Log.Level
import Runbook.Log.Scenario
import Runbook.Main
import Runbook.Metadata.Basic
import Runbook.Metadata.Check
import Runbook.Metadata.Error
import Runbook.Metadata.File
import Runbook.Metadata.Name
import Runbook.Metadata.Store
import Runbook.Metadata.Uniqueness
import Runbook.Order
import Runbook.Path
import Runbook.Pattern.Basic
import Runbook.Pattern.Engine
import Runbook.Pattern.Property
import Runbook.Pattern.Reader
import Runbook.Pattern.Reading
import Runbook.Pattern.Search
import Runbook.Pattern.Set
import Runbook.PortError
import Runbook.Publish.Publisher
import Runbook.Publish.Selection
import Runbook.Publish.Service
import Runbook.Rules.Basic
import Runbook.Rules.Check
import Runbook.Script.Expression
import Runbook.Script.Lexeme
import Runbook.Script.Reading
import Runbook.Script.Statement
import Runbook.Settings.Basic
import Runbook.Settings.Environment
import Runbook.Settings.Name
import Runbook.Settings.Source
import Runbook.Table
import Runbook.Tag
import Runbook.Text.Basic
import Runbook.Text.Blank
import Runbook.Text.Category
import Runbook.Text.Debug
import Runbook.Text.Letter
import Runbook.Text.Property
import Runbook.Text.Run
import Runbook.Text.Script
import Runbook.Yaml.Basic
import Runbook.Yaml.Cursor
import Runbook.Yaml.Node
import Runbook.Yaml.OfJson
import Runbook.Yaml.Printer
import Runbook.Yaml.Reader
import Runbook.Yaml.Scalar
import Runbook.Yaml.Token
import Runbook.Yaml.Token.Lexer
import Runbook.Yaml.Token.Scalar
import Runbook.Proofs.Alarm.Attendance
import Runbook.Proofs.Alarm.Deployment
import Runbook.Proofs.Alarm.Effect
import Runbook.Proofs.Alarm.Naming
import Runbook.Proofs.Alarm.Preflight
import Runbook.Proofs.Alarm.Session
import Runbook.Proofs.Alarm.Template
import Runbook.Proofs.Assembly.Placeholder
import Runbook.Proofs.Audit.Clean
import Runbook.Proofs.Audit.Publication
import Runbook.Proofs.Except
import Runbook.Proofs.Json.Keys
import Runbook.Proofs.Metadata.Record
import Runbook.Proofs.Metadata.Uniqueness
import Runbook.Proofs.Metadata.Validation
import Runbook.Proofs.Publish.DefaultVersion
import Runbook.Proofs.Publish.Records
import Runbook.Proofs.Publish.Repetition
import Runbook.Proofs.Publish.Selection
import Runbook.Proofs.Publish.Service
import Runbook.Proofs.Publish.Transition
import Runbook.Proofs.Rules.Conformity
import Runbook.Proofs.Table
import Runbook.Proofs.Text.Number
import Runbook.Proofs.Text.Occurrence
import Runbook.Proofs.Alarm.Substitution
import Runbook.Proofs.Path
import Runbook.Proofs.Tag
import Runbook.Proofs.Metadata.Classification
import Runbook.Proofs.Metadata.Conversion
import Runbook.Proofs.Alarm.Descriptor
import Runbook.Proofs.Alarm.Failure
import Runbook.Proofs.Alarm.Reachable
import Runbook.Proofs.Alarm.Report
import Runbook.Proofs.Alarm.Scheduling
import Runbook.Proofs.Alarm.Coverage
import Runbook.Proofs.Metadata.Collision
import Runbook.Proofs.Publish.Interruption
import Runbook.Proofs.Publish.Forecast
import Runbook.Proofs.Audit.Severity
import Runbook.Proofs.CommandLine.Arguments
import Runbook.Proofs.CommandLine.WarnOnly
import Runbook.Proofs.Order
import Runbook.Proofs.Publish.Exactness
import Runbook.Proofs.Publish.History
import Runbook.Proofs.Alarm.Binding
import Runbook.Proofs.Assembly.Registry
import Runbook.Proofs.Assembly.Locality
import Runbook.Proofs.Metadata.Naming
import Runbook.Proofs.Text.Letter
import Runbook.Proofs.Text.Line
import Runbook.Proofs.Assembly.Extraction
import Runbook.Proofs.Script.Expression
import Runbook.Proofs.Script.Lexeme
import Runbook.Proofs.Script.Outline
import Runbook.Proofs.Script.Reading
import Runbook.Proofs.Script.Statement
import Runbook.Proofs.Document
import Runbook.Proofs.Rules.Extension
import Runbook.Proofs.Rules.Presence
import Runbook.Proofs.Rules.Reference
import Runbook.Proofs.Yaml.Change
import Runbook.Proofs.Yaml.Equality
import Runbook.Proofs.Metadata.Masking
import Runbook.Proofs.Settings.Demand
import Runbook.Proofs.Settings.Dependence
import Runbook.Proofs.Settings.Errors
import Runbook.Proofs.Settings.Validity
import Runbook.Proofs.Alarm.Dimension
import Runbook.Proofs.Alarm.Spelling
import Runbook.Proofs.Alarm.Window
import Runbook.Proofs.Alarm.Reference
import Runbook.Proofs.Alarm.Variable
import Runbook.Proofs.Settings.Name
import Runbook.Proofs.Pattern.Reading
import Runbook.Proofs.Pattern.Search
import Runbook.Proofs.Pattern.Locality
import Runbook.Proofs.Pattern.Progress
import Runbook.Proofs.Pattern.Anchor
import Runbook.Proofs.Pattern.Engine
import Runbook.Proofs.Rules.NamePattern
