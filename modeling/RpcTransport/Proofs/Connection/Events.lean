import Mathlib.Data.List.Basic
import RpcTransport.Proofs.Connection.Outcomes

/-!
# What happens on a connection

A run of a connection is a list of events, in any order: requests are submitted, frames come in,
deadlines pass, writes succeed or fail, the workers and the writer go on, and the connection ends.
Each event is the function of the connection that sees to it.

Requests are known by their ids. A submission comes with the id it takes, so that the run is still
the same run for the others when some events are left out, and the ticket of a request is the number
of those submitted before. The result of a write is told for the request it is of, whenever the
writer comes to it; a frame may be written out of turn here, which no request can tell.
-/

namespace RpcTransport

inductive Event where
  | submit (id : UInt64) (kind : CompletionKind) (body : Bytes) (timeout : Option Nat)
  /-- A frame comes in. -/
  | frame (f : Frame)
  /-- A handler has finished. -/
  | reply (r : InboundRequest) (o : HandlerOutcome)
  | deadline (id : UInt64)
  /-- The frame of a request was written. -/
  | written (id : UInt64)
  /-- The frame of a request could not be written, and the connection goes on. -/
  | writeFailed (id : UInt64) (reason : String)
  | teardown (reason : TransportError)
  /-- The writer of a cancelled connection stops. -/
  | stopWriter
  /-- The writer takes the next frame. -/
  | nextFrame
  /-- A free worker takes a response. -/
  | take
  /-- The first busy worker whose job is not held up finishes it. -/
  | finish (held : DecodeJob → Bool)
  | oneway (body : Bytes)
  | event (body : Bytes)
  /-- Nothing came in for the idle interval, and a probe is due. -/
  | idle
  | probeWritten

/-- A connection, and the ids of the requests that were submitted on it, in order. -/
structure Conversation where
  connection : Connection
  submitted : List UInt64

namespace Conversation

/-- A new connection. -/
def start (info : ConnectionInfo) (config : ConnectionConfig) (registry decoders : Registry)
    (processors : Nat) (dispatch : DispatchConfig) : Conversation :=
  ⟨.start info config registry (.ofConfig decoders processors dispatch), []⟩

/-- The ticket of a request that was submitted. -/
def ticket (s : Conversation) (id : UInt64) : Nat := s.submitted.idxOf id

def withConnection (s : Conversation) (c : Connection) : Conversation := { s with connection := c }

/-- What an event does; `handler` says whether requests of the peer are served. -/
def apply (handler : Bool) (s : Conversation) (e : Event) : Conversation :=
  let c := s.connection
  match e with
  | .submit id kind body timeout =>
    ⟨({ c with nextId := id }.submit kind body timeout).2, s.submitted ++ [id]⟩
  | .frame f => s.withConnection (c.onFrame handler f).2
  | .reply r o => s.withConnection (c.finishRequest r o)
  | .deadline id => s.withConnection (c.expire id)
  | .written id => s.withConnection (c.acknowledge (.request id (s.ticket id)) none)
  | .writeFailed id reason =>
    s.withConnection (c.acknowledge (.request id (s.ticket id)) (some reason))
  | .teardown reason => s.withConnection (c.shutdown reason)
  | .stopWriter => s.withConnection (if c.cancelled then c.closeQueue else c)
  | .nextFrame => s.withConnection ((c.dequeue.map Prod.snd).getD c)
  | .take => s.withConnection ((c.dispatcher.take.map ({ c with dispatcher := · })).getD c)
  | .finish held =>
    s.withConnection (((c.dispatcher.finish held).map fun (job, d) ↦
      { c with dispatcher := d }.finishDecoding job).getD c)
  | .oneway body => s.withConnection (c.sendOneway body).2
  | .event body => s.withConnection (c.sendEvent body).2
  | .idle => s.withConnection c.onIdle.2
  | .probeWritten => s.withConnection (c.acknowledge .probe none)

def run (handler : Bool) (s : Conversation) (es : List Event) : Conversation :=
  es.foldl (apply handler) s

/-- What the caller of a request was told, or will be by a worker. -/
def told (s : Conversation) (id : UInt64) : List Resolution := s.connection.toldTo (s.ticket id)

end Conversation

/-! ## The events of one request -/

/-- A response frame, not of a heartbeat, to a request. -/
def Frame.answers (f : Frame) (id : UInt64) : Bool :=
  !f.isHeartbeat && !f.isRequest && f.id == id

namespace Event

/-- The id that an event takes for a new request. -/
def submitted? : Event → Option UInt64
  | .submit id _ _ _ => some id
  | _ => none

/-- The event is of another request than `x`, or a response to no request that is pending, or has to
do with heartbeats. -/
def isForeign (x : UInt64) (c : Connection) : Event → Bool
  | .submit id _ _ _ | .deadline id | .written id | .writeFailed id _ => id != x
  | .frame f => f.isHeartbeat || !f.isRequest && (f.id != x || !c.table.contains f.id)
  | .idle | .probeWritten => true
  | _ => false

end Event

/-- A run without the events that are foreign to a request. -/
def Conversation.only (handler : Bool) (x : UInt64) : Conversation → List Event → List Event
  | _, [] => []
  | s, e :: es =>
    if e.isForeign x s.connection then only handler x (s.apply handler e) es
    else e :: only handler x (s.apply handler e) es

/-! ## The story of one request -/

/-- How far a request has come. -/
inductive Fate where
  | unborn
  | pending (kind : CompletionKind) (timeout : Nat) (write : WriteState)
  | settled (r : Resolution)

namespace Fate

/-- A request that is pending is resolved. -/
def settle (resolution : CompletionKind → Nat → WriteState → Resolution) : Fate → Fate
  | .pending kind timeout write => .settled (resolution kind timeout write)
  | fate => fate

def markWritten : Fate → Fate
  | .pending kind timeout write => .pending kind timeout write.markWritten
  | fate => fate

end Fate

/-- What a request that was not answered in time is failed with. -/
def lateError (connection peer : String) (id : UInt64) (timeout : Nat) (w : WriteState) :
    TransportError :=
  match w.phase with
  | .failed => .connectFailed peer (w.reason.getD "write failed")
  | .awaiting => .requestTimeout connection id (PendingTable.shownMillis timeout)
  | .written => .responseTimeout connection id (PendingTable.shownMillis timeout)

/-- All that the outcome of one request depends on: why the connection was closed, if it was, and
how far the request has come. -/
structure Story where
  closed : Option TransportError
  fate : Fate

namespace Story

def start : Story := ⟨none, .unborn⟩

/-- What an event does to request `x`; the connection says what does not change. -/
def next (c : Connection) (x : UInt64) (st : Story) : Event → Story
  | .submit id kind _ timeout =>
    if id = x then
      match st.closed with
      | some reason => { st with fate := .settled (.failed reason) }
      | none =>
        { st with fate := .pending kind (timeout.getD c.config.requestTimeout) .initial }
    else st
  | .frame f =>
    if f.answers x then
      { st with fate := st.fate.settle fun kind _ _ ↦ kind.answer c.dispatcher.registry f }
    else st
  | .deadline id =>
    if id = x then
      { st with fate := st.fate.settle fun _ timeout write ↦
          .failed (lateError c.name c.peer id timeout write) }
    else st
  | .written id => if id = x then { st with fate := st.fate.markWritten } else st
  | .writeFailed id reason =>
    if id = x then
      { st with fate := st.fate.settle fun _ _ _ ↦
          .failed (.connectFailed c.peer s!"write of request {id.toNat} failed: {reason}") }
    else st
  | .teardown reason =>
    ⟨some (st.closed.getD reason), st.fate.settle fun _ _ _ ↦ .failed reason⟩
  | .reply _ _ | .stopWriter | .nextFrame | .take | .finish _ | .oneway _ | .event _ | .idle
  | .probeWritten => st

@[simp]
theorem closed_submit (c : Connection) (x : UInt64) (st : Story) (id : UInt64)
    (kind : CompletionKind) (body : Bytes) (timeout : Option Nat) :
    (st.next c x (.submit id kind body timeout)).closed = st.closed := by
  rw [next]
  split
  · cases h : st.closed with
    | none => rfl
    | some reason => rfl
  · rfl

end Story

end RpcTransport
