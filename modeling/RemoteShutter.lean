import RemoteShutter.Camera.Basic
import RemoteShutter.Camera.Session
import RemoteShutter.Camera.Shot
import RemoteShutter.Control.Handler
import RemoteShutter.Control.Station
import RemoteShutter.Control.Schedule
import RemoteShutter.Controller.Basic
import RemoteShutter.Controller.Host
import RemoteShutter.Controller.Launch
import RemoteShutter.Files.Path
import RemoteShutter.Files.Tree
import RemoteShutter.Frame.Basic
import RemoteShutter.Frame.Decoder
import RemoteShutter.Frame.Wire
import RemoteShutter.Json.Basic
import RemoteShutter.Json.Convert
import RemoteShutter.Json.Fault
import RemoteShutter.Json.Lexeme
import RemoteShutter.Json.Printer
import RemoteShutter.Json.Reader
import RemoteShutter.Json.Record
import RemoteShutter.Json.Skip
import RemoteShutter.Link.Address
import RemoteShutter.Link.Outbound
import RemoteShutter.Link.Ring
import RemoteShutter.Link.Server
import RemoteShutter.Link.Stream
import RemoteShutter.Log.Event
import RemoteShutter.Log.Filter
import RemoteShutter.Log.Record
import RemoteShutter.Log.Threshold
import RemoteShutter.Main
import RemoteShutter.Pattern.Basic
import RemoteShutter.Pattern.Brackets
import RemoteShutter.Pattern.Lexeme
import RemoteShutter.Proofs.Camera.Containment
import RemoteShutter.Proofs.Camera.Counters
import RemoteShutter.Proofs.Camera.Handling
import RemoteShutter.Proofs.Camera.Journal
import RemoteShutter.Proofs.Camera.Modes
import RemoteShutter.Proofs.Camera.Names
import RemoteShutter.Proofs.Camera.Redials
import RemoteShutter.Proofs.Camera.Roll
import RemoteShutter.Proofs.Decoder.Cuts
import RemoteShutter.Proofs.Decoder.Feed
import RemoteShutter.Proofs.Decoder.Grammar
import RemoteShutter.Proofs.Decoder.Idle
import RemoteShutter.Proofs.Decoder.Loop
import RemoteShutter.Proofs.Decoder.Observation
import RemoteShutter.Proofs.Decoder.Resync
import RemoteShutter.Proofs.Decoder.RoundTrip
import RemoteShutter.Proofs.Files.Folders
import RemoteShutter.Proofs.Files.Writes
import RemoteShutter.Proofs.Json.Lexemes
import RemoteShutter.Proofs.Json.ReadBack
import RemoteShutter.Proofs.Json.Records
import RemoteShutter.Proofs.Json.Values
import RemoteShutter.Proofs.Lifecycle.Agreement
import RemoteShutter.Proofs.Lifecycle.Crew
import RemoteShutter.Proofs.Link.Attachment
import RemoteShutter.Proofs.Link.Delivery
import RemoteShutter.Proofs.Link.Loss
import RemoteShutter.Proofs.Link.Pieces
import RemoteShutter.Proofs.Link.Readers
import RemoteShutter.Proofs.Link.Reception
import RemoteShutter.Proofs.Link.Shutdown
import RemoteShutter.Proofs.Link.Steps
import RemoteShutter.Proofs.Outbound.Integrity
import RemoteShutter.Proofs.Outbound.Ledger
import RemoteShutter.Proofs.Outbound.Overflow
import RemoteShutter.Proofs.Outbound.Stream
import RemoteShutter.Proofs.Outbound.Takers
import RemoteShutter.Proofs.Outbound.Traffic
import RemoteShutter.Proofs.Ring.BoundedQueue
import RemoteShutter.Proofs.Ring.Contents
import RemoteShutter.Proofs.Run.Account
import RemoteShutter.Proofs.Run.Cadence
import RemoteShutter.Proofs.Run.Course
import RemoteShutter.Proofs.Run.Downloads
import RemoteShutter.Proofs.Run.History
import RemoteShutter.Proofs.Run.Interference
import RemoteShutter.Proofs.Run.Logbook
import RemoteShutter.Proofs.Run.Moves
import RemoteShutter.Proofs.Settings.RoundTrip
import RemoteShutter.Proofs.Station.Answers
import RemoteShutter.Proofs.Station.Besides
import RemoteShutter.Proofs.Station.Calls
import RemoteShutter.Proofs.Station.Conservation
import RemoteShutter.Proofs.Station.Exclusive
import RemoteShutter.Proofs.Station.Exposures
import RemoteShutter.Proofs.Station.Inbound
import RemoteShutter.Proofs.Station.Readiness
import RemoteShutter.Proofs.Station.Reconnects
import RemoteShutter.Proofs.Station.Refusals
import RemoteShutter.Proofs.Station.Reports
import RemoteShutter.Proofs.Station.Served
import RemoteShutter.Proofs.Station.Setups
import RemoteShutter.Proofs.Station.Silent
import RemoteShutter.Proofs.Station.Statistics
import RemoteShutter.Proofs.Station.TestShots
import RemoteShutter.Proofs.Station.Turns
import RemoteShutter.Proofs.Telecommand.ReadBack
import RemoteShutter.Proofs.Telecommand.WireForm
import RemoteShutter.Proofs.Telemetry.ReadBack
import RemoteShutter.Proofs.Telemetry.Samples
import RemoteShutter.Proofs.Text.Numerals
import RemoteShutter.Proofs.Text.Utf8
import RemoteShutter.Proofs.Toml.Documents
import RemoteShutter.Proofs.Toml.Lines
import RemoteShutter.Proofs.Toml.Quoted
import RemoteShutter.Proofs.Toml.Scalars
import RemoteShutter.Settings.Basic
import RemoteShutter.Settings.Storage
import RemoteShutter.Settings.Toml
import RemoteShutter.Shooting.Function
import RemoteShutter.Shooting.Lifecycle
import RemoteShutter.Shooting.Plan
import RemoteShutter.Shooting.Run
import RemoteShutter.Shooting.Setup
import RemoteShutter.Telecommand.Basic
import RemoteShutter.Telecommand.Json
import RemoteShutter.Telemetry.Json
import RemoteShutter.Telemetry.StatusReport
import RemoteShutter.Telemetry.TimingStats
import RemoteShutter.Text.CharClass
import RemoteShutter.Text.Numeral
import RemoteShutter.Text.Printable
import RemoteShutter.Text.ShortestDecimal
import RemoteShutter.Text.Utf8
import RemoteShutter.Toml.Basic
import RemoteShutter.Toml.Lexeme
import RemoteShutter.Toml.Number
import RemoteShutter.Toml.Printer
import RemoteShutter.Toml.Quoted
import RemoteShutter.Toml.Reader
