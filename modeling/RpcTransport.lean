import RpcTransport.Connection.Session
import RpcTransport.Dispatcher
import RpcTransport.Endpoint
import RpcTransport.Frame.Session
import RpcTransport.Heartbeat
import RpcTransport.PendingTable
import RpcTransport.Rpc
import RpcTransport.Serialization.Object
import RpcTransport.TimingWheel
import RpcTransport.Proofs.Endpoint
import RpcTransport.Proofs.Config.Magnitudes
import RpcTransport.Proofs.Config.Settings
import RpcTransport.Proofs.Json.Documents
import RpcTransport.Proofs.Json.Mismatches
import RpcTransport.Proofs.Json.Numbers
import RpcTransport.Proofs.Json.Progress
import RpcTransport.Proofs.Json.Skipping
import RpcTransport.Proofs.Json.Text
import RpcTransport.Proofs.Json.Truncation
import RpcTransport.Proofs.Json.Values
import RpcTransport.Proofs.MessagePack.Decisions
import RpcTransport.Proofs.MessagePack.Documents
import RpcTransport.Proofs.MessagePack.Heads
import RpcTransport.Proofs.MessagePack.Mismatches
import RpcTransport.Proofs.MessagePack.Values
import RpcTransport.Proofs.Serialization.Contents
import RpcTransport.Proofs.Serialization.Heartbeats
import RpcTransport.Proofs.Serialization.Mismatches
import RpcTransport.Proofs.Serialization.Payloads
import RpcTransport.Proofs.Serialization.Positions
import RpcTransport.Proofs.Serialization.Replay
import RpcTransport.Proofs.Serialization.Results
import RpcTransport.Proofs.Serialization.RoundTrip
import RpcTransport.Proofs.Serialization.Truncation
import RpcTransport.Proofs.Frame.Accounting
import RpcTransport.Proofs.Frame.Relay
import RpcTransport.Proofs.Frame.RoundTrip
import RpcTransport.Proofs.TimingWheel.Deadlines
import RpcTransport.Proofs.TimingWheel.Pairing
import RpcTransport.Proofs.TimingWheel.Settling
import RpcTransport.Proofs.TimingWheel.Tokens
import RpcTransport.Proofs.Pending.Causes
import RpcTransport.Proofs.Pending.ExactlyOnce
import RpcTransport.Proofs.Pending.Timers
import RpcTransport.Proofs.Dispatcher.Conservation
import RpcTransport.Proofs.Dispatcher.Jobs
import RpcTransport.Proofs.Dispatcher.Modes
import RpcTransport.Proofs.Connection.Answers
import RpcTransport.Proofs.Connection.Deliveries
import RpcTransport.Proofs.Connection.Disarming
import RpcTransport.Proofs.Connection.Events
import RpcTransport.Proofs.Connection.Independence
import RpcTransport.Proofs.Connection.Liveness
import RpcTransport.Proofs.Connection.Outbound
import RpcTransport.Proofs.Connection.Outcomes
import RpcTransport.Proofs.Connection.Peers
import RpcTransport.Proofs.Connection.Reasons
import RpcTransport.Proofs.Connection.Replies
import RpcTransport.Proofs.Connection.Service
import RpcTransport.Proofs.Connection.Shutdown
import RpcTransport.Proofs.Connection.Silence
import RpcTransport.Proofs.Connection.Stories
import RpcTransport.Proofs.Connection.Timers
import RpcTransport.Proofs.Connection.Writing
import RpcTransport.Proofs.Pool.Attempts
import RpcTransport.Proofs.Pool.Callers
import RpcTransport.Proofs.Pool.Capacity
import RpcTransport.Proofs.Pool.Closing
import RpcTransport.Proofs.Pool.Conversations
import RpcTransport.Proofs.Pool.Creations
import RpcTransport.Proofs.Pool.Handover
import RpcTransport.Proofs.Pool.Leases
import RpcTransport.Proofs.Pool.LeastLeased
import RpcTransport.Proofs.Pool.Lending
import RpcTransport.Proofs.Pool.Notifications
import RpcTransport.Proofs.Pool.Ownership
import RpcTransport.Proofs.Pool.Passages
import RpcTransport.Proofs.Pool.Readiness
import RpcTransport.Proofs.Pool.Selection
import RpcTransport.Proofs.Pool.Wakeup
import RpcTransport.Proofs.Server.Stopping

/-!
# An RPC transport

Requests and answers over connections that many callers share: what is sent, who waits for it and
for how long, and what becomes of everybody when a connection ends.

The program comes first, from its parts to a client with its server (`RpcTransport.Rpc`). What is
proved about it is under `RpcTransport.Proofs`, subsystem by subsystem, and those that others build
on come first.

* **Configuration**: `Proofs.Endpoint` and `Proofs.Config`, how settings are read and which of them
  the program can work with.
* **Formats**: `Proofs.Json` and `Proofs.MessagePack`, and `Proofs.Serialization` for what both of
  them keep: values, results and errors come back from their octets, a body that is cut off is told
  from one of another type, and positions stay within the body.
* **Frames**: `Proofs.Frame`, the grammar of the stream, in whatever pieces it comes.
* **Time and waiting**: `Proofs.TimingWheel` for deadlines, `Proofs.Pending` for the table of those
  who wait, `Proofs.Dispatcher` for the workers that decode.
* **Connections**: `Proofs.Connection`, where these come together. Every request has one outcome,
  frames are written in order, and a silent or closed connection strands nobody.
* **Pools and servers**: `Proofs.Pool` for the capacity, the leases and the wakeups of a pool, and
  `Proofs.Server` for what stopping a server reaches.
-/
