import ReminderDispatch.Broker.Basic
import ReminderDispatch.Broker.Bell
import ReminderDispatch.Broker.Consumers
import ReminderDispatch.Broker.Exchange
import ReminderDispatch.Broker.Settlement
import ReminderDispatch.Broker.TaskRecord
import ReminderDispatch.Calendar.Anniversary
import ReminderDispatch.Calendar.Date
import ReminderDispatch.Calendar.DateText
import ReminderDispatch.Calendar.Instant
import ReminderDispatch.Calendar.InstantText
import ReminderDispatch.Config
import ReminderDispatch.Duration
import ReminderDispatch.Failure
import ReminderDispatch.FanOut
import ReminderDispatch.Handler
import ReminderDispatch.Json.Codec
import ReminderDispatch.Json.Fault
import ReminderDispatch.Json.Number
import ReminderDispatch.Json.Record
import ReminderDispatch.Json.Scan
import ReminderDispatch.Json.Skip
import ReminderDispatch.Main
import ReminderDispatch.Notification
import ReminderDispatch.Number.Binary64
import ReminderDispatch.Number.Binary64Text
import ReminderDispatch.Number.Powers
import ReminderDispatch.Number.Rounding
import ReminderDispatch.Producer
import ReminderDispatch.Program
import ReminderDispatch.Proofs.Broker.Admission
import ReminderDispatch.Proofs.Broker.Attempts
import ReminderDispatch.Proofs.Broker.Attendance
import ReminderDispatch.Proofs.Broker.Backoff
import ReminderDispatch.Proofs.Broker.Cancellations
import ReminderDispatch.Proofs.Broker.Closing
import ReminderDispatch.Proofs.Broker.Commutation
import ReminderDispatch.Proofs.Broker.Conservation
import ReminderDispatch.Proofs.Broker.Consistency
import ReminderDispatch.Proofs.Broker.Containers
import ReminderDispatch.Proofs.Broker.Custody
import ReminderDispatch.Proofs.Broker.Deliveries
import ReminderDispatch.Proofs.Broker.Demand
import ReminderDispatch.Proofs.Broker.Departures
import ReminderDispatch.Proofs.Broker.Hall
import ReminderDispatch.Proofs.Broker.Indifference
import ReminderDispatch.Proofs.Broker.Lobby
import ReminderDispatch.Proofs.Broker.Mirrors
import ReminderDispatch.Proofs.Broker.Operations
import ReminderDispatch.Proofs.Broker.Presence
import ReminderDispatch.Proofs.Broker.Seats
import ReminderDispatch.Proofs.Broker.Session
import ReminderDispatch.Proofs.Broker.Settlements
import ReminderDispatch.Proofs.Broker.Soundness
import ReminderDispatch.Proofs.Broker.Steps
import ReminderDispatch.Proofs.Broker.Tracking
import ReminderDispatch.Proofs.Broker.Wakeups
import ReminderDispatch.Proofs.Calendar.DateText
import ReminderDispatch.Proofs.Calendar.DayNumbers
import ReminderDispatch.Proofs.Calendar.DayOrder
import ReminderDispatch.Proofs.Calendar.InstantText
import ReminderDispatch.Proofs.Calendar.Notices
import ReminderDispatch.Proofs.Calendar.Numerals
import ReminderDispatch.Proofs.Calendar.Occurrences
import ReminderDispatch.Proofs.Config
import ReminderDispatch.Proofs.Deadlines
import ReminderDispatch.Proofs.Dialogue
import ReminderDispatch.Proofs.Foreground
import ReminderDispatch.Proofs.Json.Integers
import ReminderDispatch.Proofs.Json.Lists
import ReminderDispatch.Proofs.Json.Objects
import ReminderDispatch.Proofs.Json.Readers
import ReminderDispatch.Proofs.Json.Skipping
import ReminderDispatch.Proofs.Json.Strings
import ReminderDispatch.Proofs.Lists
import ReminderDispatch.Proofs.Machine
import ReminderDispatch.Proofs.Number.Precision
import ReminderDispatch.Proofs.Pipeline.Acceptance
import ReminderDispatch.Proofs.Pipeline.Accounting
import ReminderDispatch.Proofs.Pipeline.Construction
import ReminderDispatch.Proofs.Pipeline.Deliverables
import ReminderDispatch.Proofs.Pipeline.Delivery
import ReminderDispatch.Proofs.Pipeline.Dispatch
import ReminderDispatch.Proofs.Pipeline.Effects
import ReminderDispatch.Proofs.Pipeline.ExactlyOnce
import ReminderDispatch.Proofs.Pipeline.Interleaving
import ReminderDispatch.Proofs.Pipeline.Poison
import ReminderDispatch.Proofs.Pipeline.Processing
import ReminderDispatch.Proofs.Pipeline.Routing
import ReminderDispatch.Proofs.Pipeline.Simulated
import ReminderDispatch.Proofs.Pipeline.Stock
import ReminderDispatch.Proofs.Pipeline.StoreFailures
import ReminderDispatch.Proofs.Pipeline.Supply
import ReminderDispatch.Proofs.Pipeline.WorkerGroup
import ReminderDispatch.Proofs.Pipeline.Workshop
import ReminderDispatch.Proofs.Retry
import ReminderDispatch.Proofs.Scan.Birthdays
import ReminderDispatch.Proofs.Scan.Calls
import ReminderDispatch.Proofs.Scan.Celebrations
import ReminderDispatch.Proofs.Scan.Deadlines
import ReminderDispatch.Proofs.Scan.Halves
import ReminderDispatch.Proofs.Scan.Isolation
import ReminderDispatch.Proofs.Scan.Reminders
import ReminderDispatch.Proofs.Scan.Repetitions
import ReminderDispatch.Proofs.Scan.Reports
import ReminderDispatch.Proofs.Scan.Shutdown
import ReminderDispatch.Proofs.Scan.Simulated
import ReminderDispatch.Proofs.Scan.Spawned
import ReminderDispatch.Proofs.Scan.Tallies
import ReminderDispatch.Proofs.Scan.Timetable
import ReminderDispatch.Proofs.Store.Archive
import ReminderDispatch.Proofs.Store.Birthdays
import ReminderDispatch.Proofs.Store.NoticeBoard
import ReminderDispatch.Proofs.Store.Notifications
import ReminderDispatch.Proofs.Store.Reminders
import ReminderDispatch.Proofs.Task.Identifiers
import ReminderDispatch.Proofs.Task.Order
import ReminderDispatch.Proofs.Text.Trimming
import ReminderDispatch.Proofs.Wire.Payloads
import ReminderDispatch.Proofs.Wire.Records
import ReminderDispatch.Registry
import ReminderDispatch.Reminder
import ReminderDispatch.Retry
import ReminderDispatch.Scan.Loop
import ReminderDispatch.Scan.Settings
import ReminderDispatch.Scan.Tick
import ReminderDispatch.Scan.Ticker
import ReminderDispatch.Simulation.Actor
import ReminderDispatch.Simulation.Execution
import ReminderDispatch.Simulation.Run
import ReminderDispatch.Simulation.Script
import ReminderDispatch.Simulation.System
import ReminderDispatch.Simulation.World
import ReminderDispatch.Startup
import ReminderDispatch.StopSignal
import ReminderDispatch.Store.Notifications
import ReminderDispatch.Store.Outbox
import ReminderDispatch.Store.Reminders
import ReminderDispatch.Store.Unimplemented
import ReminderDispatch.StoreId
import ReminderDispatch.Task.Envelope
import ReminderDispatch.Task.Payload
import ReminderDispatch.Task.TaskId
import ReminderDispatch.Task.TemplateVars
import ReminderDispatch.Text.Blank
import ReminderDispatch.Text.Bytes
import ReminderDispatch.Text.Decimal
import ReminderDispatch.Text.Extending
import ReminderDispatch.Text.Quoted
import ReminderDispatch.Text.Ranges
import ReminderDispatch.Text.Unprintable
import ReminderDispatch.Wire.Records
import ReminderDispatch.Worker
