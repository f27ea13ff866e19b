import Teleop.Address
import Teleop.Bytes
import Teleop.Command.Answer
import Teleop.Command.Arguments
import Teleop.Command.Basic
import Teleop.Command.Completion
import Teleop.Command.Usage
import Teleop.Decimal.Binary64
import Teleop.Decimal.Literal
import Teleop.Decimal.Shortest
import Teleop.Decimal.Single
import Teleop.Disk
import Teleop.Fault
import Teleop.Frame
import Teleop.Gzip
import Teleop.Json.Parser
import Teleop.Json.Value
import Teleop.Link.Channel
import Teleop.Link.Config
import Teleop.Link.Event
import Teleop.Live.Engine
import Teleop.Live.Foresight
import Teleop.Live.Pages
import Teleop.Live.Sockets
import Teleop.Log.Daily
import Teleop.Log.Entry
import Teleop.Log.FileLogger
import Teleop.Log.Level
import Teleop.Log.Line
import Teleop.Main
import Teleop.Message.Basic
import Teleop.Message.Codec
import Teleop.Message.Field
import Teleop.Port.Allocator
import Teleop.Port.Supply
import Teleop.Program
import Teleop.Rehearsal.Bench
import Teleop.Rehearsal.ChannelBench
import Teleop.Rehearsal.Loopback
import Teleop.Rehearsal.Mission
import Teleop.Rehearsal.Stage
import Teleop.Roster
import Teleop.Service.Accept
import Teleop.Service.Page
import Teleop.Service.Request
import Teleop.Session.Backlog
import Teleop.Session.Call
import Teleop.Session.Conduct
import Teleop.Session.Config
import Teleop.Session.Datagram
import Teleop.Session.Event
import Teleop.Session.Metrics
import Teleop.Session.Queue
import Teleop.Session.Status
import Teleop.Session.Tick
import Teleop.Session.Transport
import Teleop.Session.World
import Teleop.Settings.Basic
import Teleop.Settings.Document
import Teleop.Settings.Summary
import Teleop.Sorting
import Teleop.Text.Blank
import Teleop.Text.Case
import Teleop.Text.Fold
import Teleop.Text.Printable
import Teleop.Text.Quote
import Teleop.Text.Utf8
import Teleop.Time.Calendar
import Teleop.Time.DurationText
import Teleop.Time.Instant
import Teleop.Toml.Expr
import Teleop.Toml.Moment
import Teleop.Toml.Number
import Teleop.Toml.Quoted
import Teleop.Toml.Reader
import Teleop.Toml.Table
import Teleop.Uuid
import Teleop.Proofs.Outcome
import Teleop.Proofs.Session.Moves
import Teleop.Proofs.Session.Round
import Teleop.Proofs.Session.Ledger
import Teleop.Proofs.Session.Budget
import Teleop.Proofs.Link.Update
import Teleop.Proofs.Link.Standing
import Teleop.Proofs.Session.Coupling
import Teleop.Proofs.Session.CoupledRuns
import Teleop.Proofs.Session.Handshake
import Teleop.Proofs.Session.Liveness
import Teleop.Proofs.Link.Course
import Teleop.Proofs.Link.Custody
import Teleop.Proofs.Link.Inbox
import Teleop.Proofs.Link.Notices
import Teleop.Proofs.Link.Transmission
import Teleop.Proofs.Link.Grants
import Teleop.Proofs.Message.Layout
import Teleop.Proofs.Message.Codec
import Teleop.Proofs.Session.Reasons
import Teleop.Proofs.Session.StatusText
import Teleop.Proofs.Session.Turns
import Teleop.Proofs.Session.Waiting
import Teleop.Proofs.Session.Requests
import Teleop.Proofs.Session.QueueHistory
import Teleop.Proofs.Session.Queues
import Teleop.Proofs.Link.Handlers
import Teleop.Proofs.Session.Announcements
import Teleop.Proofs.Message.Parts
import Teleop.Proofs.Session.Safety
import Teleop.Proofs.Session.Readiness
import Teleop.Proofs.Session.Gauge
import Teleop.Proofs.Port.Rotation
import Teleop.Proofs.Session.Snapshots
import Teleop.Proofs.Port.Provisioning
import Teleop.Proofs.Roster
import Teleop.Proofs.Settings.Keys
import Teleop.Proofs.Settings.Acceptance
import Teleop.Proofs.Message.Constructors
import Teleop.Proofs.Link.Refusals
import Teleop.Proofs.Session.Newest
import Teleop.Proofs.Disk
import Teleop.Proofs.Log.DailyFiles
import Teleop.Proofs.Frame
