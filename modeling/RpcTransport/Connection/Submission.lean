import RpcTransport.Connection

/-!
# Sending from this side

A request is submitted in small steps, between which other tasks may run: take an id, look at the
closed flag, enter the table, look at the flag again, ask the wheel for a deadline, note its token,
queue the frame. The flag is looked at again after the entry was made, so that a shutdown either
finds the entry or is seen here; and a token that finds no entry to be noted in is cancelled.

One-way requests and events do not enter the table. Their sender waits for the write instead.
-/

namespace RpcTransport

/-- A request on its way into the table and the queue. -/
structure Submission where
  id : UInt64
  completion : Completion
  timeout : Nat
  body : Bytes
deriving DecidableEq, Repr

namespace Connection

/-! ## Steps of a submission -/

/-- Take an id and a ticket. -/
def begin (c : Connection) (kind : CompletionKind) (body : Bytes) (timeout : Option Nat) :
    Submission × Connection :=
  let (id, c) := c.takeId
  let (ticket, table) := c.table.issue
  (⟨id, ⟨kind, ticket⟩, timeout.getD c.config.requestTimeout, body⟩, { c with table := table })

/-- Fail a request that did not enter the table. -/
def refuse (c : Connection) (s : Submission) : Connection :=
  c.deliver [s.completion.fail c.inactiveError]

/-- Enter the table. -/
def register (c : Connection) (s : Submission) : Connection :=
  let (d, table) := c.table.insert s.id s.completion s.timeout
  { c with table := table }.deliver d.toList

/-- Take back an entry made while the connection was closing, if a shutdown did not find it. -/
def withdraw (c : Connection) (s : Submission) : Connection :=
  match c.table.take s.id with
  | (none, _) => c
  | (some p, table) => { c with table := table }.deliver [p.completion.fail c.inactiveError]

/-- Ask for a deadline. -/
def schedule (c : Connection) (s : Submission) : Nat × Connection :=
  let (token, wheel) := c.wheel.schedule c.generation s.id (max c.leastDelay s.timeout)
  (token, { c with wheel := wheel })

/-- Note the token of the deadline, or cancel it if the request was resolved meanwhile. -/
def arm (c : Connection) (s : Submission) (token : Nat) : Connection :=
  match c.table.setTimer s.id token with
  | (true, table) => { c with table := table }
  | (false, _) => { c with wheel := c.wheel.cancel token }

/-- Queue the request, or fail it if the writer has stopped. -/
def send (c : Connection) (s : Submission) : Connection :=
  let frame := Frame.request s.id c.config.serialization (.detached s.body)
  match c.enqueue ⟨frame, .request s.id s.completion.ticket⟩ with
  | (true, c) => c
  | (false, c) => c.failWrite s.id "connection writer stopped"

/-- All steps in a row. -/
def submit (c : Connection) (kind : CompletionKind) (body : Bytes) (timeout : Option Nat) :
    Submission × Connection :=
  let (s, c) := c.begin kind body timeout
  if c.closed then (s, c.refuse s)
  else
    let (token, c) := (c.register s).schedule s
    (s, (c.arm s token).send s)

/-- A request whose sender is still in line for a place in the queue. -/
def isWaiting (c : Connection) (s : Submission) : Bool :=
  c.waiting.any fun o ↦ o.acknowledgement = .request s.id s.completion.ticket

/-! ## Frames without an answer -/

/-- Queue a frame and wait for its write: the waiter, or the error if the connection is closed. -/
def sendAcknowledged (c : Connection) (frame : Frame) : Except TransportError Nat × Connection :=
  if c.closed then (.error c.inactiveError, c)
  else
    let waiter := c.nextWaiter
    match { c with nextWaiter := waiter + 1 }.enqueue ⟨frame, .notify waiter⟩ with
    | (true, c) => (.ok waiter, c)
    | (false, c) => (.error c.inactiveError, c)

def sendOneway (c : Connection) (body : Bytes) : Except TransportError Nat × Connection :=
  let (id, c) := c.takeId
  c.sendAcknowledged (.oneway id c.config.serialization (.detached body))

def sendEvent (c : Connection) (body : Bytes) : Except TransportError Nat × Connection :=
  let (id, c) := c.takeId
  c.sendAcknowledged (.event id c.config.serialization (.detached body))

/-- What a sender learns from its notice. -/
def noticeResult (c : Connection) : WriteNotice → Except TransportError Unit
  | .written => .ok ()
  | .failed reason => .error (.connectFailed c.peer reason)
  | .dropped => .error c.inactiveError

end Connection

end RpcTransport
