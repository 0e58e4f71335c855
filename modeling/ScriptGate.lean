import ScriptGate.Audit.Entry
import ScriptGate.Audit.Trail
import ScriptGate.Backup.Copy
import ScriptGate.Backup.Dump
import ScriptGate.Backup.Stamp
import ScriptGate.Collection.SortedMap
import ScriptGate.Database.Call
import ScriptGate.Deployment.Impact
import ScriptGate.Deployment.Report
import ScriptGate.Deployment.Stage
import ScriptGate.Deployment.Workflow
import ScriptGate.Digest.Sha256
import ScriptGate.Domain.Folding
import ScriptGate.Domain.FoldingTable
import ScriptGate.Domain.Label
import ScriptGate.Domain.Mark
import ScriptGate.Domain.MarkTable
import ScriptGate.Domain.Name
import ScriptGate.Domain.Script
import ScriptGate.Domain.ScriptTable
import ScriptGate.Fault
import ScriptGate.Moment
import ScriptGate.Proofs.Backup.Calls
import ScriptGate.Proofs.Backup.Course
import ScriptGate.Proofs.Backup.Separation
import ScriptGate.Proofs.Deployment.Account
import ScriptGate.Proofs.Deployment.Advance
import ScriptGate.Proofs.Deployment.Clock
import ScriptGate.Proofs.Deployment.Drift
import ScriptGate.Proofs.Deployment.Ending
import ScriptGate.Proofs.Deployment.Gate
import ScriptGate.Proofs.Deployment.History
import ScriptGate.Proofs.Deployment.Overrun
import ScriptGate.Proofs.Deployment.Reached
import ScriptGate.Proofs.Deployment.Recording
import ScriptGate.Proofs.Deployment.Sequence
import ScriptGate.Proofs.Deployment.Simulation
import ScriptGate.Proofs.Deployment.Trail
import ScriptGate.Proofs.Deployment.Watch
import ScriptGate.Proofs.Review.Composition
import ScriptGate.Proofs.Review.Severity
import ScriptGate.Proofs.Review.Verdict
import ScriptGate.Proofs.Schema.Checksum
import ScriptGate.Proofs.Schema.Dual
import ScriptGate.Proofs.Schema.Key
import ScriptGate.Proofs.Schema.Layout
import ScriptGate.Proofs.Schema.NewColumn
import ScriptGate.Proofs.Schema.Normal
import ScriptGate.Proofs.Schema.Order
import ScriptGate.Proofs.Schema.Patch
import ScriptGate.Proofs.Schema.WholeTable
import ScriptGate.Proofs.Script.Boundary
import ScriptGate.Proofs.Script.Canonical
import ScriptGate.Proofs.Script.Comment
import ScriptGate.Proofs.Script.Cover
import ScriptGate.Proofs.Script.Delimiter
import ScriptGate.Proofs.Script.Grammar
import ScriptGate.Proofs.Script.Identifier
import ScriptGate.Proofs.Script.Kept
import ScriptGate.Proofs.Script.Output
import ScriptGate.Proofs.Script.Quote
import ScriptGate.Proofs.Script.Step
import ScriptGate.Proofs.Service.Capped
import ScriptGate.Proofs.Service.Idle
import ScriptGate.Proofs.Service.Isolation
import ScriptGate.Proofs.Service.Ledger
import ScriptGate.Proofs.Service.Reading
import ScriptGate.Proofs.Setting.Agreement
import ScriptGate.Proofs.Setting.Parts
import ScriptGate.Proofs.Sql.CappedQuery
import ScriptGate.Proofs.Sql.Quoting
import ScriptGate.Proofs.Statement.CommonTable
import ScriptGate.Proofs.Statement.PlainInsert
import ScriptGate.Proofs.Text.Blank
import ScriptGate.Proofs.Text.Capital
import ScriptGate.Proofs.Text.Match
import ScriptGate.Proofs.Text.Reading
import ScriptGate.Proofs.Text.Search
import ScriptGate.Proofs.Text.Spelling
import ScriptGate.Proofs.Text.Word
import ScriptGate.Proofs.Wire.Change
import ScriptGate.Review.Analysis
import ScriptGate.Review.Finding
import ScriptGate.Review.Overview
import ScriptGate.Review.Rules
import ScriptGate.Review.Validation
import ScriptGate.Schema.Change
import ScriptGate.Schema.Column
import ScriptGate.Schema.Prediction
import ScriptGate.Schema.Snapshot
import ScriptGate.Script.Keyword
import ScriptGate.Script.Scan
import ScriptGate.Service.Answer
import ScriptGate.Service.Gate
import ScriptGate.Service.Preview
import ScriptGate.Service.Request
import ScriptGate.Service.Serve
import ScriptGate.Service.Session
import ScriptGate.Setting.Address
import ScriptGate.Setting.Choice
import ScriptGate.Setting.Connection
import ScriptGate.Setting.Host
import ScriptGate.Setting.Location
import ScriptGate.Setting.Settings
import ScriptGate.Sql.Alteration
import ScriptGate.Sql.Call
import ScriptGate.Sql.Change
import ScriptGate.Sql.Column
import ScriptGate.Sql.Command
import ScriptGate.Sql.Definition
import ScriptGate.Sql.Grammar
import ScriptGate.Sql.Interval
import ScriptGate.Sql.Keyword
import ScriptGate.Sql.Name
import ScriptGate.Sql.Operator
import ScriptGate.Sql.Outline
import ScriptGate.Sql.Read
import ScriptGate.Sql.RowPattern
import ScriptGate.Sql.Rule
import ScriptGate.Sql.Scan
import ScriptGate.Sql.Select
import ScriptGate.Sql.TableSource
import ScriptGate.Sql.Term
import ScriptGate.Sql.Token
import ScriptGate.Sql.TypeName
import ScriptGate.Sql.Written
import ScriptGate.Statement.Kind
import ScriptGate.Statement.Reading
import ScriptGate.Statement.Shape
import ScriptGate.Text.Case
import ScriptGate.Text.CaseTable
import ScriptGate.Text.Class
import ScriptGate.Text.ClassTable
import ScriptGate.Text.Digit
import ScriptGate.Text.Path
import ScriptGate.Text.Pattern
import ScriptGate.Text.Percent
import ScriptGate.Text.Trim
import ScriptGate.Text.Utf8
import ScriptGate.Uuid
import ScriptGate.Wire.Deployment
import ScriptGate.Wire.Json
import ScriptGate.Wire.Review
import ScriptGate.Wire.Schema
import ScriptGate.Wire.Service
import ScriptGate.Wire.Setting
