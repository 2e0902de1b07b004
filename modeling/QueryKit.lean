import QueryKit.Value.Shape
import QueryKit.Text.Blank
import QueryKit.Text.Case
import QueryKit.Text.Quoted
import QueryKit.Text.Utf8
import QueryKit.Unicode.Run
import QueryKit.Unicode.Printable
import QueryKit.Unicode.Upper
import QueryKit.Unicode.CaseMap
import QueryKit.Decimal.Shortest
import QueryKit.Decimal.Text
import QueryKit.Decimal.Fixed
import QueryKit.Time.Floating
import QueryKit.Time.Duration
import QueryKit.Time.Civil
import QueryKit.Json.Basic
import QueryKit.Value.Basic
import QueryKit.Value.Render
import QueryKit.Value.Marshal
import QueryKit.Value.Printf
import QueryKit.Fault.Basic
import QueryKit.Fault.Report
import QueryKit.Sql.Identifier
import QueryKit.Sql.Term
import QueryKit.Sql.Binding
import QueryKit.Sql.Condition
import QueryKit.Sql.Statement
import QueryKit.Sql.Segment
import QueryKit.Sql.Dialect
import QueryKit.Sql.Placeholder
import QueryKit.Json.Parse
import QueryKit.Sql.Keyword
import QueryKit.Decimal.Parse
import QueryKit.Decimal.Format
import QueryKit.Journal.Level
import QueryKit.Journal.Format
import QueryKit.Journal.Logger
import QueryKit.Query.Scope
import QueryKit.Query.Builder
import QueryKit.Paging.Window
import QueryKit.Scan.Convert
import QueryKit.Query.Run
import QueryKit.Query.Call
import QueryKit.Yaml.Node
import QueryKit.Yaml.Document
import QueryKit.Yaml.Scalar
import QueryKit.Yaml.Decode
import QueryKit.Definition.Basic
import QueryKit.Definition.Run
import QueryKit.Config.Store
import QueryKit.Config.Coerce
import QueryKit.Config.Settings
import QueryKit.Config.Toml
import QueryKit.Config.File
import QueryKit.Model.Layout
import QueryKit.Scan.Assign
import QueryKit.Model.Record
import QueryKit.Query.Into
import QueryKit.Session.Engine
import QueryKit.Session.Connection
import QueryKit.Session.Scripted
import QueryKit.Session.Handle
import QueryKit.Json.Tagged
import QueryKit.Cli.Command
import QueryKit.Cli.Script
import QueryKit.Cli.Complete
import QueryKit.Cli.App
import QueryKit.Main
import QueryKit.Proofs.Marker.Scan
import QueryKit.Proofs.Marker.Quote
import QueryKit.Proofs.Marker.Slot
import QueryKit.Proofs.Marker.Clause
import QueryKit.Proofs.Marker.Bind
import QueryKit.Proofs.Marker.Statement
import QueryKit.Proofs.Marker.Chain
import QueryKit.Proofs.Marker.Rows
import QueryKit.Proofs.Marker.Terminal
import QueryKit.Proofs.Where.Meaning
import QueryKit.Proofs.Where.Guard
import QueryKit.Proofs.Run.Reset
import QueryKit.Proofs.Paging.Machine
import QueryKit.Proofs.Paging.Statement
import QueryKit.Proofs.Binding.Slots
import QueryKit.Proofs.Fault.Calls
import QueryKit.Proofs.Fault.Terminal
import QueryKit.Proofs.Paging.Count
import QueryKit.Proofs.Identifier.Recursion
import QueryKit.Proofs.Identifier.Tokens
import QueryKit.Proofs.Identifier.Forms
import QueryKit.Proofs.Identifier.Requote
import QueryKit.Proofs.Binding.Dialect
import QueryKit.Proofs.Run.Dialects
import QueryKit.Proofs.Marker.Splice
import QueryKit.Proofs.Paging.Partition
import QueryKit.Proofs.Insert.Layout
import QueryKit.Proofs.Insert.Upsert
import QueryKit.Proofs.Run.ConflictSlots
import QueryKit.Proofs.Marker.Refused
import QueryKit.Proofs.Model.Promotion
import QueryKit.Proofs.Paging.Merge
import QueryKit.Proofs.Session.Transaction
import QueryKit.Proofs.Where.Written
import QueryKit.Proofs.Marker.Lexing
