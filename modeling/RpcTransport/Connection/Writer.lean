import RpcTransport.Connection

/-!
# The writer

The writer takes frames from the queue one by one, encodes each and puts its octets on the
transport. A frame over the limit contributes nothing and fails alone. When the connection is
cancelled, the frame at hand is left as it is: its octets that are still buffered may go out during
a grace period, but nobody is told.
-/

namespace RpcTransport

/-- What the writer is at. -/
inductive Writer where
  | idle
  /-- Some octets of a frame are still to go out. -/
  | sending (acknowledgement : Acknowledgement) (unsent : Bytes)
  /-- The connection is cancelled; the rest goes out until the deadline. -/
  | closing (unsent : Bytes) (deadline : Nat)
  | stopped
deriving DecidableEq, Repr

namespace Connection

/-- How long the writer may go on after the end, in milliseconds. -/
def writerGrace : Nat := 1000

/-- Tell whoever waits for it how the write of a frame went; `none` is success. -/
def acknowledge (c : Connection) (a : Acknowledgement) (failure : Option String) : Connection :=
  match a, failure with
  | .none, _ => c
  | .request _ ticket, none => { c with table := c.table.markWritten ticket }
  | .request id _, some reason => c.failWrite id reason
  | .probe, none => { c with heartbeat := c.heartbeat.probeWritten }
  | .probe, some reason =>
    c.shutdown (.channelInactive c.name s!"heartbeat write failed: {reason}")
  | .notify waiter, none => c.notify waiter .written
  | .notify waiter, some reason => c.notify waiter (.failed reason)

/-- A frame that went with the queue, or was left in the writer's hands. -/
def dropOutbound (c : Connection) (a : Acknowledgement) : Connection :=
  match a with
  | .notify waiter => c.notify waiter .dropped
  | _ => c

/-- A sender in line learns that the writer has stopped. -/
def dismiss (c : Connection) (a : Acknowledgement) : Connection :=
  match a with
  | .request id _ => c.failWrite id "connection writer stopped"
  | a => c.dropOutbound a

/-- The writer takes no more frames: those in the queue are dropped and those in line dismissed. -/
def closeQueue (c : Connection) : Connection :=
  let queued := c.queue.map (·.acknowledgement)
  let inLine := c.waiting.map (·.acknowledgement)
  let c := { c with queueOpen := false, queue := [], waiting := [] }
  inLine.foldl dismiss (queued.foldl dropOutbound c)

/-- Take the next frame: what is to go out, if it is within the limit, or its failure. -/
def takeFrame (c : Connection) : Option (Writer × Connection) :=
  match c.dequeue with
  | none => none
  | some (o, c) =>
    match o.frame.encode c.config.payloadLimit with
    | .ok octets => some (.sending o.acknowledgement octets, c)
    | .error e => some (.idle, c.acknowledge o.acknowledgement (some e.message))

end Connection

end RpcTransport
