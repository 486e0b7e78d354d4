import VersionedStore.Action
import VersionedStore.Bulk.Body
import VersionedStore.Client.Buffer
import VersionedStore.Client.Call
import VersionedStore.Client.Codec
import VersionedStore.Client.Cursor
import VersionedStore.Client.Error
import VersionedStore.Client.Http
import VersionedStore.Client.Intent
import VersionedStore.Client.Interleave
import VersionedStore.Client.Loopback
import VersionedStore.Client.Memory
import VersionedStore.Client.Outbox
import VersionedStore.Client.Program
import VersionedStore.Client.Queue
import VersionedStore.Client.Report
import VersionedStore.Client.Repository
import VersionedStore.Client.Retry
import VersionedStore.Client.Session
import VersionedStore.Client.Shared
import VersionedStore.Client.Update
import VersionedStore.Data.Binary64
import VersionedStore.Data.Binary64.Fixed
import VersionedStore.Data.Binary64.Shortest
import VersionedStore.Data.Bytes
import VersionedStore.Data.Decimal
import VersionedStore.Data.Description
import VersionedStore.Data.Hexadecimal
import VersionedStore.Data.Hidden
import VersionedStore.Data.Name
import VersionedStore.Data.Percent
import VersionedStore.Data.Pieces
import VersionedStore.Data.Quoted
import VersionedStore.Data.Table
import VersionedStore.Data.Utf8
import VersionedStore.Data.WhiteSpace
import VersionedStore.Duration
import VersionedStore.Json.Access
import VersionedStore.Json.Number
import VersionedStore.Json.Record
import VersionedStore.Json.Text
import VersionedStore.Json.Text.Reader
import VersionedStore.Json.Value
import VersionedStore.Proofs.Bulk.RoundTrip
import VersionedStore.Proofs.Client.Calls
import VersionedStore.Proofs.Client.Concurrent
import VersionedStore.Proofs.Client.Exchange
import VersionedStore.Proofs.Client.Update
import VersionedStore.Proofs.Data.Decimal
import VersionedStore.Proofs.Data.Percent
import VersionedStore.Proofs.Data.Pieces
import VersionedStore.Proofs.Data.Table
import VersionedStore.Proofs.Data.Utf8
import VersionedStore.Proofs.Json.Printing
import VersionedStore.Proofs.Json.Record
import VersionedStore.Proofs.Json.Reread
import VersionedStore.Proofs.Json.RoundTrip
import VersionedStore.Proofs.Json.WellFormed
import VersionedStore.Proofs.Server.Evolution
import VersionedStore.Proofs.Server.Target
import VersionedStore.Proofs.Store.Evolution
import VersionedStore.Proofs.Store.Guard
import VersionedStore.Proofs.Store.Versions
import VersionedStore.Proofs.Testing.Increments
import VersionedStore.Proofs.Testing.Model
import VersionedStore.Proofs.Testing.Note
import VersionedStore.Proofs.Wire.Replies
import VersionedStore.Server.Basic
import VersionedStore.Server.Target
import VersionedStore.Store.Basic
import VersionedStore.Store.Error
import VersionedStore.Store.Index
import VersionedStore.Store.Query
import VersionedStore.Store.Scroll
import VersionedStore.Testing.Backend
import VersionedStore.Testing.Contention
import VersionedStore.Testing.Counting
import VersionedStore.Testing.Fixture
import VersionedStore.Testing.Model
import VersionedStore.Testing.Note
import VersionedStore.Testing.Outage
import VersionedStore.Testing.Script
import VersionedStore.Testing.Stress
import VersionedStore.Version
import VersionedStore.View.Basic
import VersionedStore.View.Client
import VersionedStore.View.Settings
import VersionedStore.View.Store
import VersionedStore.View.Testing
import VersionedStore.View.Wire
import VersionedStore.Wire.Document
import VersionedStore.Wire.Error
import VersionedStore.Wire.Item
import VersionedStore.Wire.Search
import VersionedStore.Wire.Word
import VersionedStore.Proofs.Bulk.Framing
import VersionedStore.Client.Intake
import VersionedStore.Proofs.Client.Crew
import VersionedStore.Proofs.Client.Cursor
import VersionedStore.Proofs.Client.Intake
import VersionedStore.Proofs.Client.Snapshot
import VersionedStore.Proofs.Client.CursorHistory
import VersionedStore.Proofs.Client.ReadBack
import VersionedStore.Proofs.Client.Transparency
import VersionedStore.Proofs.Server.Refusals
import VersionedStore.Proofs.Client.Addressing
import VersionedStore.Proofs.Client.Sequential
import VersionedStore.Proofs.Client.Agreement
import VersionedStore.Proofs.Client.Recovery
import VersionedStore.Proofs.Server.Isolation
import VersionedStore.Proofs.Client.Rounds
import VersionedStore.Proofs.Client.OpenScrolls
import VersionedStore.Proofs.Wire.Messages
import VersionedStore.Proofs.Client.StandIn
import VersionedStore.Proofs.Bulk.Concatenation
import VersionedStore.Proofs.Bulk.Reencoding
import VersionedStore.Proofs.Store.Numbering
import VersionedStore.Proofs.Store.Terms
import VersionedStore.Proofs.Client.Leases
import VersionedStore.Proofs.Testing.BulkLoad
import VersionedStore.Proofs.Testing.Contention
