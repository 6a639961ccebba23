import BrokerTenancy.Access.Decision
import BrokerTenancy.Access.Path
import BrokerTenancy.Acl.Binding
import BrokerTenancy.Acl.Expansion
import BrokerTenancy.Acl.Filter
import BrokerTenancy.Broker.Basic
import BrokerTenancy.Broker.Call
import BrokerTenancy.Bytes.Crc32
import BrokerTenancy.Bytes.Endian
import BrokerTenancy.Bytes.Hex
import BrokerTenancy.Bytes.Utf8
import BrokerTenancy.Calendar.Date
import BrokerTenancy.Calendar.Instant
import BrokerTenancy.Catalog.Basic
import BrokerTenancy.Catalog.Query
import BrokerTenancy.Controller.Arguments
import BrokerTenancy.Controller.Startup
import BrokerTenancy.Cycle.Basic
import BrokerTenancy.Cycle.Fleet
import BrokerTenancy.Cycle.Json
import BrokerTenancy.Cycle.Managed
import BrokerTenancy.Cycle.Plan
import BrokerTenancy.Cycle.Report
import BrokerTenancy.Cycle.Schedule
import BrokerTenancy.Cycle.Site
import BrokerTenancy.Cycle.Tally
import BrokerTenancy.Disk.Basic
import BrokerTenancy.Disk.Path
import BrokerTenancy.Fault
import BrokerTenancy.Json.Basic
import BrokerTenancy.Json.Decoder
import BrokerTenancy.Json.Lexer
import BrokerTenancy.Json.Numeral
import BrokerTenancy.Json.Reader
import BrokerTenancy.Json.Writer
import BrokerTenancy.Log.Basic
import BrokerTenancy.Log.Directory
import BrokerTenancy.Log.File
import BrokerTenancy.Log.Frame
import BrokerTenancy.Log.Memory
import BrokerTenancy.Log.Record
import BrokerTenancy.Log.Recovery
import BrokerTenancy.Log.Scripted
import BrokerTenancy.Main
import BrokerTenancy.Number.Nearest
import BrokerTenancy.Number.Power
import BrokerTenancy.Number.Shortest
import BrokerTenancy.Proofs.Access.Decision
import BrokerTenancy.Proofs.Access.Path
import BrokerTenancy.Proofs.Access.Subject
import BrokerTenancy.Proofs.Acl.Expansion
import BrokerTenancy.Proofs.Broker.Batches
import BrokerTenancy.Proofs.Calendar.Written
import BrokerTenancy.Proofs.Catalog.Confinement
import BrokerTenancy.Proofs.Catalog.Desired
import BrokerTenancy.Proofs.Catalog.Lookup
import BrokerTenancy.Proofs.Catalog.PublicGrant
import BrokerTenancy.Proofs.Cycle.Accounting
import BrokerTenancy.Proofs.Cycle.Continuity
import BrokerTenancy.Proofs.Cycle.Convergence
import BrokerTenancy.Proofs.Cycle.Exclusion
import BrokerTenancy.Proofs.Cycle.Foreign
import BrokerTenancy.Proofs.Cycle.Interruption
import BrokerTenancy.Proofs.Cycle.Isolation
import BrokerTenancy.Proofs.Cycle.Plan
import BrokerTenancy.Proofs.Cycle.Removal
import BrokerTenancy.Proofs.Cycle.Reporting
import BrokerTenancy.Proofs.Cycle.Revocation
import BrokerTenancy.Proofs.Cycle.Scheduler
import BrokerTenancy.Proofs.Cycle.Synchronization
import BrokerTenancy.Proofs.Cycle.Unmanaged
import BrokerTenancy.Proofs.Cycle.Upkeep
import BrokerTenancy.Proofs.Json.Written
import BrokerTenancy.Proofs.Log.Canonical
import BrokerTenancy.Proofs.Log.Codec
import BrokerTenancy.Proofs.Log.Damage
import BrokerTenancy.Proofs.Log.Oversize
import BrokerTenancy.Proofs.Log.Reading
import BrokerTenancy.Proofs.Log.Recovery
import BrokerTenancy.Proofs.Log.Reopening
import BrokerTenancy.Proofs.Log.Sequence
import BrokerTenancy.Proofs.Log.ZeroFill
import BrokerTenancy.Proofs.Resource.Stored
import BrokerTenancy.Proofs.Settings.Validation
import BrokerTenancy.Proofs.Sorted.Map
import BrokerTenancy.Proofs.Sorted.Set
import BrokerTenancy.Proofs.Store.Catchup
import BrokerTenancy.Proofs.Store.Delivery
import BrokerTenancy.Proofs.Store.Durability
import BrokerTenancy.Proofs.Store.Loop
import BrokerTenancy.Proofs.Store.Opening
import BrokerTenancy.Proofs.Store.Progress
import BrokerTenancy.Proofs.Store.ReadYourWrites
import BrokerTenancy.Proofs.Store.Readable
import BrokerTenancy.Proofs.Store.Registry
import BrokerTenancy.Proofs.Store.Replay
import BrokerTenancy.Proofs.Store.Replicas
import BrokerTenancy.Proofs.Store.Rest
import BrokerTenancy.Proofs.Store.Session
import BrokerTenancy.Proofs.Store.Stopped
import BrokerTenancy.Proofs.Store.Traffic
import BrokerTenancy.Proofs.Wire.Batch
import BrokerTenancy.Proofs.Wire.Codec
import BrokerTenancy.Proofs.Wire.Course
import BrokerTenancy.Proofs.Wire.Outcomes
import BrokerTenancy.Proofs.Wire.Refinement
import BrokerTenancy.Proofs.Wire.Reply
import BrokerTenancy.Proofs.Wire.Separation
import BrokerTenancy.Proofs.Wire.Service
import BrokerTenancy.Resource.Basic
import BrokerTenancy.Resource.Json
import BrokerTenancy.Settings.Basic
import BrokerTenancy.Settings.Decoder
import BrokerTenancy.Settings.Json
import BrokerTenancy.Settings.Layered
import BrokerTenancy.Settings.Toml
import BrokerTenancy.Settings.Tree
import BrokerTenancy.Settings.Variables
import BrokerTenancy.Sorted.Map
import BrokerTenancy.Sorted.Set
import BrokerTenancy.Store.Basic
import BrokerTenancy.Store.Hosted
import BrokerTenancy.Store.Write
import BrokerTenancy.Text.Blank
import BrokerTenancy.Text.Extending
import BrokerTenancy.Text.Hidden
import BrokerTenancy.Text.Quoted
import BrokerTenancy.Text.Unassigned
import BrokerTenancy.Toml.Basic
import BrokerTenancy.Toml.Line
import BrokerTenancy.Toml.Reader
import BrokerTenancy.Toml.Scalar
import BrokerTenancy.Toml.Table
import BrokerTenancy.Toml.Text
import BrokerTenancy.Wire.Address
import BrokerTenancy.Wire.Binding
import BrokerTenancy.Wire.Client
import BrokerTenancy.Wire.Field
import BrokerTenancy.Wire.Link
import BrokerTenancy.Wire.Message
import BrokerTenancy.Wire.Server
