import FeeWatch.Alert.Address
import FeeWatch.Alert.Desk
import FeeWatch.Alert.Hook
import FeeWatch.Alert.Host
import FeeWatch.Alert.Name
import FeeWatch.Calendar.Civil
import FeeWatch.Calendar.Instant
import FeeWatch.Calendar.Reading
import FeeWatch.Calendar.Span
import FeeWatch.Command.Arguments
import FeeWatch.Command.Feed
import FeeWatch.Command.Run
import FeeWatch.Command.Session
import FeeWatch.Command.Wire
import FeeWatch.Config.Basic
import FeeWatch.Config.Default
import FeeWatch.Config.Environment
import FeeWatch.Config.Load
import FeeWatch.Config.Merge
import FeeWatch.Config.Overlay
import FeeWatch.Congestion.Detector
import FeeWatch.Congestion.Exact
import FeeWatch.Congestion.Thresholds
import FeeWatch.Datum.Access
import FeeWatch.Datum.Basic
import FeeWatch.Datum.Members
import FeeWatch.Datum.Reading
import FeeWatch.Datum.Shared
import FeeWatch.Datum.Text
import FeeWatch.Fee.Point
import FeeWatch.Fee.Snapshot
import FeeWatch.Fee.Status
import FeeWatch.Files
import FeeWatch.History.Basic
import FeeWatch.History.Lines
import FeeWatch.History.Store
import FeeWatch.History.Table
import FeeWatch.Incident
import FeeWatch.Json.Reader
import FeeWatch.Json.Writer
import FeeWatch.Log
import FeeWatch.Log.Entry
import FeeWatch.Log.Route
import FeeWatch.Main
import FeeWatch.Monitor.Basic
import FeeWatch.Monitor.Cycle
import FeeWatch.Monitor.Drill
import FeeWatch.Monitor.Loop
import FeeWatch.Monitor.Settings
import FeeWatch.Monitor.Station
import FeeWatch.Monitor.Watch
import FeeWatch.Number.Basic
import FeeWatch.Number.Binary
import FeeWatch.Number.Decimal
import FeeWatch.Number.Reading
import FeeWatch.Number.Rounding
import FeeWatch.Number.Shortest
import FeeWatch.Proofs.Alert.Address
import FeeWatch.Proofs.Alert.Desk
import FeeWatch.Proofs.Alert.Reach
import FeeWatch.Proofs.Alert.Stream
import FeeWatch.Proofs.Calendar.Civil
import FeeWatch.Proofs.Calendar.Span
import FeeWatch.Proofs.Calendar.Stamp
import FeeWatch.Proofs.Calendar.Text
import FeeWatch.Proofs.Config.Acceptance
import FeeWatch.Proofs.Config.Checks
import FeeWatch.Proofs.Config.Environment
import FeeWatch.Proofs.Config.Groups
import FeeWatch.Proofs.Config.Laying
import FeeWatch.Proofs.Config.Loading
import FeeWatch.Proofs.Config.Merge
import FeeWatch.Proofs.Config.Overlay
import FeeWatch.Proofs.Config.Precedence
import FeeWatch.Proofs.Config.Reading
import FeeWatch.Proofs.Congestion.Comparable
import FeeWatch.Proofs.Congestion.Hysteresis
import FeeWatch.Proofs.Congestion.Levels
import FeeWatch.Proofs.Congestion.Making
import FeeWatch.Proofs.Congestion.Steady
import FeeWatch.Proofs.Datum.Keys
import FeeWatch.Proofs.Datum.Reading
import FeeWatch.Proofs.Datum.Shared
import FeeWatch.Proofs.Fee.Records
import FeeWatch.Proofs.History.Calls
import FeeWatch.Proofs.History.Framing
import FeeWatch.Proofs.History.Misfits
import FeeWatch.Proofs.History.Recall
import FeeWatch.Proofs.History.Snapshots
import FeeWatch.Proofs.Json.RoundTrip
import FeeWatch.Proofs.Monitor.Acceptance
import FeeWatch.Proofs.Monitor.Alerts
import FeeWatch.Proofs.Monitor.Announcement
import FeeWatch.Proofs.Monitor.Bookkeeping
import FeeWatch.Proofs.Monitor.Cycle
import FeeWatch.Proofs.Monitor.Failures
import FeeWatch.Proofs.Monitor.History
import FeeWatch.Proofs.Monitor.Keeping
import FeeWatch.Proofs.Monitor.Policies
import FeeWatch.Proofs.Monitor.Publication
import FeeWatch.Proofs.Monitor.Readers
import FeeWatch.Proofs.Monitor.Requests
import FeeWatch.Proofs.Monitor.Returning
import FeeWatch.Proofs.Number.Order
import FeeWatch.Proofs.Number.Precision
import FeeWatch.Proofs.Number.Range
import FeeWatch.Proofs.Setting
import FeeWatch.Proofs.Source.Delivery
import FeeWatch.Proofs.Source.Failures
import FeeWatch.Proofs.Source.Journal
import FeeWatch.Proofs.Source.Visits
import FeeWatch.Proofs.Window.Aggregates
import FeeWatch.Proofs.Window.Arrival
import FeeWatch.Proofs.Window.Batches
import FeeWatch.Proofs.Window.Extremes
import FeeWatch.Proofs.Window.Ingest
import FeeWatch.Proofs.Window.Late
import FeeWatch.Proofs.Window.Retention
import FeeWatch.Proofs.Window.Turnover
import FeeWatch.Proofs.Yaml.Keys
import FeeWatch.Service.Error
import FeeWatch.Setting
import FeeWatch.Source.Basic
import FeeWatch.Source.Failure
import FeeWatch.Source.Ledger
import FeeWatch.Source.Provider
import FeeWatch.Source.Request
import FeeWatch.Source.Scripted
import FeeWatch.Text.Blank
import FeeWatch.Text.Case
import FeeWatch.Text.Cased
import FeeWatch.Text.Compose
import FeeWatch.Text.Digit
import FeeWatch.Text.Direction
import FeeWatch.Text.Lines
import FeeWatch.Text.Printable
import FeeWatch.Text.Punycode
import FeeWatch.Text.Quoted
import FeeWatch.Text.Variant
import FeeWatch.Window.Basic
import FeeWatch.Window.Extremes
import FeeWatch.Window.Tally
import FeeWatch.Yaml.Block
import FeeWatch.Yaml.Cursor
import FeeWatch.Yaml.Data
import FeeWatch.Yaml.Fault
import FeeWatch.Yaml.Kind
import FeeWatch.Yaml.Lexer
import FeeWatch.Yaml.Library
import FeeWatch.Yaml.Node
import FeeWatch.Yaml.Plain
import FeeWatch.Yaml.Quoted
import FeeWatch.Yaml.Tag
import FeeWatch.Yaml.Token
import FeeWatch.Yaml.Value
import FeeWatch.Yaml.Writer
