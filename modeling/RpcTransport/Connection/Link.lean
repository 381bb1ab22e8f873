import RpcTransport.Connection.Inbound
import RpcTransport.Connection.Submission
import RpcTransport.Connection.Writer
import RpcTransport.Pipe

/-!
# A connection on a pipe

A connection together with its tasks, two pipes and the peer at their far end, under a clock that
only moves when told to. Each task makes one move at a time, and of the tasks that can move the
first in a fixed order does: the timing wheel, the reader, the decoding workers, the handlers, the
writer. `settle` lets them move until none can.

The reader takes all that has arrived before anyone else moves, so the replies to a burst of frames
meet a queue that nobody has emptied meanwhile.
-/

namespace RpcTransport

/-- A handler that has not answered yet. -/
structure HandlerTask where
  due : Nat
  request : InboundRequest
  outcome : HandlerOutcome

structure Link where
  now : Nat
  connection : Connection
  /-- What answers the requests of the peer, if anything does. -/
  handler : Option Handler
  /-- The reader has not stopped. -/
  reading : Bool
  /-- When silence will have lasted for the idle interval. -/
  idleDue : Option Nat
  reader : FrameReader
  writer : Writer
  inbound : Pipe
  outbound : Pipe
  tasks : List HandlerTask
  /-- The requests handlers were called with. -/
  handled : List InboundRequest
  /-- What the peer has read and not yet decoded. -/
  peerReader : FrameReader
  peerFrames : List Frame
  /-- The peer has read up to the end. -/
  peerAtEnd : Bool

namespace Link

def start (c : Connection) (handler : Option Handler) (capacity now : Nat) : Link where
  now := now
  connection := { c with wheel := c.wheel.advanceTo now }
  handler := handler
  reading := true
  idleDue := c.config.idleInterval.map (now + ·)
  reader := .ofLimit c.config.payloadLimit
  writer := .idle
  inbound := .empty capacity
  outbound := .empty capacity
  tasks := []
  handled := []
  peerReader := .ofLimit Frame.defaultLimit
  peerFrames := []
  peerAtEnd := false

/-! ## The timing wheel -/

def withWheel (l : Link) (w : TimingWheel Nat) : Link :=
  { l with connection := { l.connection with wheel := w } }

/-- Take the commands sent to the wheel, or fire the deadline that is due if it is one of this
connection. -/
def turnWheel (l : Link) : Option Link :=
  let w := l.connection.wheel
  if !w.commands.isEmpty then some (l.withWheel w.receive)
  else if w.dueTarget? = some l.connection.generation then
    (w.expireNext fun _ ↦ true).map fun (fired, w) ↦
      let l := l.withWheel w
      { l with connection := fired.toList.foldl (fun c f ↦ c.expire f.2) l.connection }
  else none

/-! ## The reader -/

def stopReading (l : Link) : Link := { l with reading := false }

/-- The reader has found a reason to end the connection. -/
def endReading (l : Link) (reason : TransportError) : Link :=
  { l with connection := l.connection.shutdown reason }.stopReading

def restartIdle (l : Link) : Link :=
  { l with idleDue := l.connection.config.idleInterval.map (l.now + ·) }

/-- Take in a frame; a handler that it calls starts at once. -/
def receive (l : Link) (f : Frame) : Link :=
  match l.handler, l.connection.onFrame l.handler.isSome f with
  | _, (none, c) | none, (_, c) => { l with connection := c }
  | some handler, (some r, c) =>
    let plan := handler r
    { l with
      connection := c
      tasks := l.tasks ++ [⟨l.now + plan.delay, r, plan.outcome⟩]
      handled := l.handled ++ [r] }

/-- Decode what has arrived, frame by frame. The fuel is the number of octets. -/
def readFrames : (fuel : Nat) → Link → Link
  | 0, l => l
  | fuel + 1, l =>
    let next := if l.inbound.writerGone then FrameReader.decodeLast else FrameReader.decode
    match next l.connection.registry l.reader with
    | (.error e, reader) =>
      { l with reader := reader }.endReading (.ofCodec l.connection.name e)
    | (.ok none, reader) =>
      let l := { l with reader := reader }
      if l.inbound.writerGone then
        l.endReading (.channelInactive l.connection.name "closed by peer")
      else l
    | (.ok (some f), reader) =>
      readFrames fuel (({ l with reader := reader }.receive f).restartIdle)

/-- What the reader does next: stop, take in what has arrived, or note that nothing has. -/
def moveReader (l : Link) : Option Link :=
  if l.reading = false then none
  else if l.connection.cancelled then some l.stopReading
  else if !l.inbound.buffer.isEmpty || l.inbound.writerGone then
    let (octets, inbound) := l.inbound.readAll
    let l := { l with inbound := inbound, reader := l.reader.feed octets }
    some (l.readFrames (l.reader.buffer.length + 1))
  else if (l.idleDue.map fun t ↦ decide (t ≤ l.now)).getD false then
    match l.connection.onIdle with
    | (none, c) => some { l with connection := c }.restartIdle
    | (some reason, c) => some ({ l with connection := c }.endReading reason)
  else none

/-- The workers decode the responses they were given. -/
def moveWorkers (l : Link) : Option Link :=
  l.connection.decodeQueued.map fun c ↦ { l with connection := c }

/-! ## Handlers -/

/-- The first handler whose time has come answers. -/
def moveHandler (l : Link) : Option Link :=
  match l.tasks.span fun t ↦ decide (l.now < t.due) with
  | (_, []) => none
  | (before, t :: after) =>
    some { l with
      connection := l.connection.finishRequest t.request t.outcome
      tasks := before ++ after }

/-! ## The writer -/

/-- The writer is done: its end of the pipe is shut, and so is the queue. -/
def stopWriter (l : Link) : Link :=
  { l with
    connection := l.connection.closeQueue
    writer := .stopped
    outbound := { l.outbound with writerGone := true } }

/-- Put octets on the transport as far as they fit. -/
def transmit (l : Link) (unsent : Bytes) : Bytes × Link :=
  let (rest, outbound) := l.outbound.write unsent
  (rest, { l with outbound := outbound })

def moveWriter (l : Link) : Option Link :=
  match l.writer with
  | .stopped => none
  | .idle =>
    if l.connection.cancelled then
      some { l with writer := .closing [] (l.now + Connection.writerGrace) }
    else l.connection.takeFrame.map fun (w, c) ↦ { l with writer := w, connection := c }
  | .sending a unsent =>
    if l.connection.cancelled then
      some { l with
        connection := l.connection.dropOutbound a
        writer := .closing unsent (l.now + Connection.writerGrace) }
    else if unsent.isEmpty then
      some { l with connection := l.connection.acknowledge a none, writer := .idle }
    else if l.outbound.room = 0 then none
    else
      let (rest, l) := l.transmit unsent
      some { l with writer := .sending a rest }
  | .closing unsent deadline =>
    if unsent.isEmpty || l.outbound.readerGone || decide (deadline ≤ l.now) then some l.stopWriter
    else if l.outbound.room = 0 then none
    else
      let (rest, l) := l.transmit unsent
      some { l with writer := .closing rest deadline }

/-! ## All tasks -/

/-- One move of the first task that can move. -/
def move (l : Link) : Option Link :=
  l.turnWheel <|> l.moveReader <|> l.moveWorkers <|> l.moveHandler <|> l.moveWriter

/-- More moves than any run between two instants has. -/
def patience : Nat := 1000000

def settleFor : (fuel : Nat) → Link → Link
  | 0, l => l
  | fuel + 1, l =>
    match l.move with
    | none => l
    | some l => settleFor fuel l

/-- Let the tasks move until none can. -/
def settle (l : Link) : Link := settleFor patience l

/-! ## Time -/

/-- When a task other than the wheel will be able to move by itself. -/
def taskDue? (l : Link) : Option Nat :=
  let idle := if l.reading then l.idleDue else none
  let grace := match l.writer with
    | .closing _ deadline => some deadline
    | _ => none
  (idle.toList ++ grace.toList ++ l.tasks.map (·.due)).min?

/-- When the next task will be able to move by itself. -/
def nextDue? (l : Link) : Option Nat :=
  (l.connection.wheel.nextDue?.toList ++ l.taskDue?.toList).min?

def advanceTo (l : Link) (instant : Nat) : Link :=
  { l with
    now := max l.now instant
    connection := { l.connection with wheel := l.connection.wheel.advanceTo instant } }

/-- Go on to an instant, stopping whenever a task is due. -/
def runUntil (instant : Nat) : (fuel : Nat) → Link → Link
  | 0, l => l.advanceTo instant
  | fuel + 1, l =>
    match l.nextDue? with
    | none => l.advanceTo instant
    | some due =>
      if due ≤ instant then runUntil instant fuel (l.advanceTo due).settle else l.advanceTo instant

def sleep (l : Link) (millis : Nat) : Link := (l.runUntil (l.now + millis) patience).settle

/-! ## The peer -/

/-- The frames in what the peer has read. The fuel is the number of octets. -/
def decodePeer : (fuel : Nat) → Link → Link
  | 0, l => l
  | fuel + 1, l =>
    match l.peerReader.decode .standard with
    | (.ok (some f), reader) =>
      decodePeer fuel { l with peerReader := reader, peerFrames := l.peerFrames ++ [f] }
    | (_, reader) => { l with peerReader := reader }

/-- The peer reads all there is, again and again while that makes room for more. -/
def peerReadFor : (fuel : Nat) → Link → Link
  | 0, l => l
  | fuel + 1, l =>
    if l.outbound.readerGone then l
    else
      let (octets, outbound) := l.outbound.readAll
      let reader := l.peerReader.feed octets
      let l := { l with outbound := outbound, peerReader := reader }
      let l := (l.decodePeer (reader.buffer.length + 1)).settle
      if l.outbound.buffer.isEmpty then { l with peerAtEnd := l.peerAtEnd || l.outbound.atEnd }
      else peerReadFor fuel l

def peerRead (l : Link) : Link := l.peerReadFor patience

/-- How a write of the peer went. -/
inductive PeerWrite where
  | sent
  /-- The pipe is full and nobody reads. -/
  | stalled
  /-- The connection has let go of the pipe. -/
  | refused
  /-- The peer has let go of it. -/
  | gone
deriving DecidableEq, Repr

/-- The connection has let go of both directions. -/
def isReleased (l : Link) : Bool := !l.reading && l.writer == .stopped

def peerWriteFor : (fuel : Nat) → Bytes → Link → PeerWrite × Link
  | 0, _, l => (.stalled, l)
  | fuel + 1, octets, l =>
    if l.inbound.writerGone then (.gone, l)
    else if octets.isEmpty then (.sent, l)
    else if l.isReleased then (.refused, l)
    else
      let (rest, inbound) := l.inbound.write octets
      let l := { l with inbound := inbound }.settle
      if rest.isEmpty then (.sent, l)
      else if l.inbound.room = 0 then (.stalled, l)
      else peerWriteFor fuel rest l

/-- The peer writes some octets. -/
def peerWrite (l : Link) (octets : Bytes) : PeerWrite × Link := peerWriteFor patience octets l

/-- The peer lets go of the pipe. -/
def hangUp (l : Link) : Link :=
  { l with
    inbound := { l.inbound with writerGone := true }
    outbound := { l.outbound with readerGone := true } }

end Link

end RpcTransport
