import MessageGateway.Address
import MessageGateway.Call
import MessageGateway.Config
import MessageGateway.Content
import MessageGateway.Content.DocumentName
import MessageGateway.Content.Outbound
import MessageGateway.Content.Waveform
import MessageGateway.DeliveryQueue
import MessageGateway.Destination
import MessageGateway.Dispatch
import MessageGateway.Dispatch.Error
import MessageGateway.Dispatch.Readiness
import MessageGateway.Dispatch.Resolve
import MessageGateway.Gateway
import MessageGateway.HistorySync.Coordinator
import MessageGateway.HistorySync.Error
import MessageGateway.HistorySync.Payload
import MessageGateway.HistorySync.Registry
import MessageGateway.Identifier
import MessageGateway.Identifier.Base32
import MessageGateway.Instance
import MessageGateway.Json.Basic
import MessageGateway.Json.Decode
import MessageGateway.Json.Lexer
import MessageGateway.Json.Numeral
import MessageGateway.Json.Parser
import MessageGateway.Json.Printer
import MessageGateway.Json.Real
import MessageGateway.Json.Value
import MessageGateway.JsonForm.Basic
import MessageGateway.JsonForm.Config
import MessageGateway.JsonForm.Content
import MessageGateway.JsonForm.Flat
import MessageGateway.JsonForm.HistorySync
import MessageGateway.JsonForm.Message
import MessageGateway.Memory
import MessageGateway.Message
import MessageGateway.Outbox
import MessageGateway.Outbox.Workers
import MessageGateway.Program
import MessageGateway.Proofs.Calls
import MessageGateway.Proofs.Delivery.Guarantees
import MessageGateway.Proofs.Delivery.History
import MessageGateway.Proofs.Delivery.Operations
import MessageGateway.Proofs.Delivery.Reliance
import MessageGateway.Proofs.Delivery.Send
import MessageGateway.Proofs.Dispatch.Alone
import MessageGateway.Proofs.Dispatch.Footprint
import MessageGateway.Proofs.Interleaving
import MessageGateway.Proofs.Setting
import MessageGateway.QueueEvent
import MessageGateway.Session
import MessageGateway.Simulation.Journal
import MessageGateway.Simulation.Scheduler
import MessageGateway.Simulation.Script
import MessageGateway.Simulation.World
import MessageGateway.Store.Error
import MessageGateway.Store.Instances
import MessageGateway.Store.Messages
import MessageGateway.Store.Payloads
import MessageGateway.Store.Table
import MessageGateway.Tasks
import MessageGateway.Text.Blank
import MessageGateway.Text.Parts
import MessageGateway.Text.Printable
import MessageGateway.Text.Quoted
import MessageGateway.Time.Calendar
import MessageGateway.Time.Rfc3339
import MessageGateway.Time.Timestamp
import MessageGateway.Proofs.Traces
import MessageGateway.Proofs.Dispatch.Conduct
import MessageGateway.Proofs.Dispatch.Durability
import MessageGateway.Proofs.Delivery.Tenants
import MessageGateway.Proofs.HistorySync.History
import MessageGateway.Proofs.HistorySync.Conduct
import MessageGateway.Proofs.HistorySync.Records
import MessageGateway.Proofs.HistorySync.Starts
import MessageGateway.Proofs.HistorySync.Statuses
import MessageGateway.Proofs.Dispatch.Approach
import MessageGateway.Proofs.Dispatch.Course
import MessageGateway.Proofs.Delivery.Alone
import MessageGateway.Proofs.Delivery.Succession
import MessageGateway.Proofs.Delivery.Events
import MessageGateway.Proofs.Delivery.Recovery
import MessageGateway.Proofs.Delivery.Integrity
import MessageGateway.Proofs.SideBySide
import MessageGateway.Proofs.Delivery.Paths
import MessageGateway.Proofs.Delivery.Listing
import MessageGateway.Proofs.Delivery.Sweeps
import MessageGateway.Proofs.Outbox.Pool
import MessageGateway.Proofs.Outbox.Workers
import MessageGateway.Proofs.HistorySync.Guard
import MessageGateway.Proofs.Asides
import MessageGateway.Proofs.Delivery.Bookkeeping
import MessageGateway.Proofs.HistorySync.Footprint
import MessageGateway.Proofs.HistorySync.Alone
import MessageGateway.Proofs.HistorySync.Shares
import MessageGateway.Proofs.HistorySync.Tenants
import MessageGateway.Proofs.Simulation.Prompt
import MessageGateway.Proofs.HistorySync.Timers
import MessageGateway.Proofs.HistorySync.Turns
import MessageGateway.Proofs.HistorySync.Schedule
import MessageGateway.Proofs.Text.Parts
import MessageGateway.Proofs.Text.Digits
import MessageGateway.Proofs.Destination.Candidates
import MessageGateway.Proofs.Destination.Preference
import MessageGateway.Proofs.Destination.Normal
import MessageGateway.Proofs.Json.Numeral
import MessageGateway.Proofs.Json.Lexer
import MessageGateway.Proofs.Json.Parser
import MessageGateway.Proofs.Identifier
import MessageGateway.Proofs.Time.Calendar
import MessageGateway.Proofs.Time.Rfc3339
import MessageGateway.Proofs.JsonForm.Fields
import MessageGateway.Proofs.JsonForm.Content
import MessageGateway.Proofs.JsonForm.Records
import MessageGateway.Proofs.Address
import MessageGateway.Proofs.Destination.Marks
import MessageGateway.Proofs.Destination.Resolution
import MessageGateway.Proofs.Dispatch.Vigil
import MessageGateway.Proofs.Dispatch.Schedule
import MessageGateway.Proofs.Delivery.Queries
import MessageGateway.Proofs.Delivery.Exits
import MessageGateway.Proofs.Outbox.Takers
import MessageGateway.Proofs.HistorySync.Remains
import MessageGateway.Proofs.HistorySync.Arrivals
import MessageGateway.Proofs.Content
import MessageGateway.Proofs.HistorySync.Processing
import MessageGateway.Proofs.HistorySync.Balance
import MessageGateway.Proofs.HistorySync.Acceptances
import MessageGateway.Proofs.Destination.Groups
import MessageGateway.Proofs.Identifier.Order
import MessageGateway.Proofs.Dispatch.Conclusion
import MessageGateway.Proofs.Matching
import MessageGateway.Proofs.Dispatch.Fallbacks
