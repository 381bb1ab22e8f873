import RpcTransport.Config
import RpcTransport.Dispatcher
import RpcTransport.Heartbeat
import RpcTransport.PendingTable
import RpcTransport.Semaphore
import RpcTransport.Text.Quoted
import RpcTransport.TimingWheel

/-!
# The state of a connection

What the tasks of a connection share: the table of pending requests, the outbound queue, the
heartbeat and the flags of its end. Reader, writer, handlers and callers each go through this state
in small steps, and every function here and in the modules below is one such step, or a row of them
that runs without a pause.

What callers are told is logged: `deliveries` for requests, by ticket, and `notices` for frames
whose sender waits for the write, by waiter.

## The outbound queue

The queue has room for a fixed number of frames. A sender that finds it full waits in line, and gets
the next place that comes free before anyone else; a sender that will not wait drops its frame.
-/

namespace RpcTransport

inductive Role where
  | client
  | server
deriving DecidableEq, Repr

def Role.name : Role → String
  | .client => "client"
  | .server => "server"

/-- Who is to be told how the write of a frame went. -/
inductive Acknowledgement where
  | none
  | request (id : UInt64) (ticket : Nat)
  | probe
  | notify (waiter : Nat)
deriving DecidableEq, Repr

structure Outbound where
  frame : Frame
  acknowledgement : Acknowledgement
deriving DecidableEq, Repr

/-- What a sender that waits for its write is told. -/
inductive WriteNotice where
  | written
  | failed (reason : String)
  /-- The frame went with the queue. -/
  | dropped
deriving DecidableEq, Repr

structure Connection where
  role : Role
  generation : Nat
  config : ConnectionConfig
  registry : Registry
  table : PendingTable
  heartbeat : Heartbeat
  nextId : UInt64
  closed : Bool
  closeReason : Option TransportError
  /-- The tasks of the connection have been told to stop. -/
  cancelled : Bool
  queue : List Outbound
  /-- Senders in line for a place in the queue. -/
  waiting : List Outbound
  /-- The writer still takes from the queue. -/
  queueOpen : Bool
  /-- The wheel with the deadlines of this connection, each for its generation, and maybe with those
  of others. -/
  wheel : TimingWheel Nat
  /-- The shortest delay of a deadline, zero where the clock stands still while tasks move. -/
  leastDelay : Nat
  dispatcher : Dispatcher
  arena : Arena
  deliveries : List Delivery
  nextWaiter : Nat
  notices : List (Nat × WriteNotice)

/-- What a connection is opened with. -/
structure ConnectionInfo where
  name : String
  peer : String
  role : Role
  generation : Nat
deriving DecidableEq, Repr

namespace Connection

def start (info : ConnectionInfo) (config : ConnectionConfig) (registry : Registry)
    (dispatcher : Dispatcher) : Connection where
  role := info.role
  generation := info.generation
  config := config
  registry := registry
  table := .empty info.name info.peer
  heartbeat := .initial
  nextId := 1
  closed := false
  closeReason := none
  cancelled := false
  queue := []
  waiting := []
  queueOpen := true
  wheel := .start
  leastDelay := 0
  dispatcher := dispatcher
  arena := .empty
  deliveries := []
  nextWaiter := 0
  notices := []

def name (c : Connection) : String := c.table.connection

def peer (c : Connection) : String := c.table.peer

def debugText (c : Connection) : String :=
  s!"Connection \x7b name: {Quoted.quote c.name}, peer: {Quoted.quote c.peer}, " ++
    s!"generation: {c.generation}, pending: {c.table.size}, closed: {c.closed} \x7d"

/-- What requests on a closed connection fail with. -/
def inactiveError (c : Connection) : TransportError :=
  c.closeReason.getD (.channelInactive c.name "connection closed")

/-! ## Small steps -/

def takeId (c : Connection) : UInt64 × Connection := (c.nextId, { c with nextId := c.nextId + 1 })

def deliver (c : Connection) (ds : List Delivery) : Connection :=
  { c with deliveries := c.deliveries ++ ds }

def notify (c : Connection) (waiter : Nat) (n : WriteNotice) : Connection :=
  { c with notices := c.notices ++ [(waiter, n)] }

/-- A body that came in is no longer used. -/
def release (c : Connection) (b : Body) : Connection := { c with arena := c.arena.release b }

/-- Resolve a request whose write failed, if it is still pending. -/
def failWrite (c : Connection) (id : UInt64) (reason : String) : Connection :=
  let (d, table) := c.table.failWrite id reason
  { c with table := table }.deliver d.toList

/-- The deadline of a request has passed. -/
def expire (c : Connection) (id : UInt64) : Connection :=
  let (d, table) := c.table.expire id
  { c with table := table }.deliver d.toList

/-! ## The queue -/

def capacity (c : Connection) : Nat := max c.config.outboundQueue 1

/-- A new connection with its queue, if that is one that can be made. -/
def open? (info : ConnectionInfo) (config : ConnectionConfig) (registry : Registry)
    (dispatcher : Dispatcher) : Option Connection :=
  let c := start info config registry dispatcher
  (Semaphore.places? c.capacity).map fun _ ↦ c

/-- Queue a frame, or get in line. Once the writer has stopped the frame is refused. -/
def enqueue (c : Connection) (o : Outbound) : Bool × Connection :=
  if c.queueOpen = false then (false, c)
  else if c.queue.length < c.capacity then (true, { c with queue := c.queue ++ [o] })
  else (true, { c with waiting := c.waiting ++ [o] })

/-- Queue a frame if there is room now. -/
def tryEnqueue (c : Connection) (o : Outbound) : Bool × Connection :=
  if c.queueOpen ∧ c.queue.length < c.capacity then (true, { c with queue := c.queue ++ [o] })
  else (false, c)

/-- The next frame to write; the first sender in line gets the place. -/
def dequeue (c : Connection) : Option (Outbound × Connection) :=
  match c.queue, c.waiting with
  | [], _ => none
  | o :: queue, [] => some (o, { c with queue := queue })
  | o :: queue, w :: waiting => some (o, { c with queue := queue ++ [w], waiting := waiting })

/-! ## The end -/

/-- Set the flag; only the first to do so goes on with the shutdown. -/
def markClosed (c : Connection) : Bool × Connection := (!c.closed, { c with closed := true })

/-- Set the reason, unless there is one. -/
def setReason (c : Connection) (reason : TransportError) : Connection :=
  { c with closeReason := some (c.closeReason.getD reason) }

/-- Fail every request that is pending now. -/
def failPending (c : Connection) (reason : TransportError) : Connection :=
  let (ds, table) := c.table.failAll reason
  { c with table := table }.deliver ds

def cancel (c : Connection) : Connection := { c with cancelled := true }

/-- End the connection. Only the first reason counts. -/
def shutdown (c : Connection) (reason : TransportError) : Connection :=
  match c.markClosed with
  | (false, c) => c
  | (true, c) => ((c.setReason reason).failPending reason).cancel

/-- End the connection from this side. -/
def close (c : Connection) (reason : String) : Connection :=
  c.shutdown (.channelInactive c.name reason)

end Connection

end RpcTransport
