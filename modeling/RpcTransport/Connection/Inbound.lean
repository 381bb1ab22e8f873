import RpcTransport.Connection
import RpcTransport.Handler

/-!
# Frames from the peer

Every frame proves the peer alive. Then it goes one of four ways, and one only: a heartbeat request
is answered if there is room, a heartbeat response is done with, a request goes to the handler, and
a response goes to the pending request of its id, if there is one.

A request that cannot go to the handler is answered with a failure, if it expects an answer. What a
handler says is turned into one response frame.
-/

namespace RpcTransport.Connection

/-! ## Replies -/

/-- A response that carries a failure: in the serialization of the request if it is known, else in
the connection's own. If that is unknown too, the body is empty. -/
def errorFrame (c : Connection) (id : UInt64) (serialization : UInt8) (e : HandlerError) : Frame :=
  let serialization := if c.registry.contains serialization then serialization
    else c.config.serialization
  let body :=
    match c.registry.encode serialization fun f ↦ f.writeText e.message with
    | .ok bs => bs
    | .error _ => []
  .response id serialization e.status (.detached body)

/-- The response to a request with the outcome of its handler. -/
def replyFrame (c : Connection) (r : InboundRequest) : HandlerOutcome → Frame
  | .ok result =>
    match result.toBody c.registry r.serialization with
    | .ok body => .response r.id r.serialization .ok (.detached body)
    | .error e => c.errorFrame r.id r.serialization ⟨.badResponse, e.message⟩
  | .error e => c.errorFrame r.id r.serialization e

/-- A handler has finished: its request's body is done with, and its reply waits for a place in the
queue. One-way requests and events have no reply. -/
def finishRequest (c : Connection) (r : InboundRequest) (o : HandlerOutcome) : Connection :=
  let c := c.release r.body
  if r.twoWay then (c.enqueue ⟨c.replyFrame r o, .none⟩).2 else c

/-- Answer a request that does not go to the handler. -/
def rejectRequest (c : Connection) (f : Frame) (e : HandlerError) : Connection :=
  let c := c.release f.body
  if f.twoWay then (c.tryEnqueue ⟨c.errorFrame f.id f.serialization e, .none⟩).2 else c

/-! ## Routing -/

def onHeartbeat (c : Connection) (f : Frame) : Connection :=
  let c := c.release f.body
  if f.isRequest then
    match Heartbeat.answer c.registry f with
    | .ok reply => (c.tryEnqueue ⟨reply, .none⟩).2
    | .error _ => c
  else c

/-- A request, and whether there is a handler: what the handler is to be called with. -/
def onRequest (c : Connection) (handler : Bool) (f : Frame) : Option InboundRequest × Connection :=
  if handler = false then
    (none, c.rejectRequest f (.server "no request handler on this endpoint"))
  else if c.registry.contains f.serialization = false then
    (none, c.rejectRequest f
      (.badRequest s!"unsupported serialization id {f.serialization.toNat}"))
  else (some ⟨f.id, f.serialization, f.isEvent, f.twoWay, c.name, f.body⟩, c)

/-- The completion of a request that is being answered: its deadline is cancelled, and it counts as
written, whatever the writer knows. -/
def claim (c : Connection) (p : Pending) : Connection :=
  let wheel := (p.timer.map c.wheel.cancel).getD c.wheel
  { c with wheel := wheel, table := c.table.markWritten p.ticket }

/-- Hand a response to the dispatcher. A body is done with once it was decoded, and a raw one is the
caller's. -/
def dispatch (c : Connection) (completion : Completion) (f : Frame) : Connection :=
  let (d, dispatcher) := c.dispatcher.submit completion f
  let c := { c with dispatcher := dispatcher }.deliver d.toList
  if completion.kind = .raw ∨ d.isNone then c else c.release f.body

/-- A worker has decoded a response. -/
def finishDecoding (c : Connection) (job : DecodeJob) : Connection :=
  (c.deliver [c.dispatcher.decode job]).release job.frame.body

/-- The workers decode what they were given, if there is anything. -/
def decodeQueued (c : Connection) : Option Connection :=
  match c.dispatcher.work fun _ ↦ false with
  | ([], _) => none
  | (jobs, dispatcher) => some (jobs.foldl finishDecoding { c with dispatcher := dispatcher })

def onResponse (c : Connection) (f : Frame) : Connection :=
  match c.table.take f.id with
  | (none, _) => c.release f.body
  | (some p, table) => ({ c with table := table }.claim p).dispatch p.completion f

/-- Take in a frame. -/
def onFrame (c : Connection) (handler : Bool) (f : Frame) : Option InboundRequest × Connection :=
  let c := { c with heartbeat := c.heartbeat.inbound, arena := c.arena.adoptOne }
  if f.isHeartbeat then (none, c.onHeartbeat f)
  else if f.isRequest then c.onRequest handler f
  else (none, c.onResponse f)

/-! ## Silence -/

/-- Queue a probe, or say why the connection is to end. -/
def queueProbe (c : Connection) : Option TransportError × Connection :=
  let (id, c) := c.takeId
  match Heartbeat.probe c.registry id c.config.serialization with
  | .error e => (some (.channelInactive c.name s!"cannot build heartbeat: {e.message}"), c)
  | .ok frame =>
    match c.tryEnqueue ⟨frame, .probe⟩ with
    | (true, c) => (none, c)
    | (false, c) =>
      (some (.channelInactive c.name "heartbeat write failed: outbound queue full"), c)

/-- Nothing came in for the idle interval: queue a probe, or say why the connection is to end. The
writer runs on, and may count a probe between the look at the count and the queueing. -/
def onIdle (c : Connection) : Option TransportError × Connection :=
  match c.heartbeat.onIdle c.config.maxUnanswered with
  | .close n => (some (.channelInactive c.name s!"{n} heartbeats unanswered"), c)
  | .probe => c.queueProbe

end RpcTransport.Connection
