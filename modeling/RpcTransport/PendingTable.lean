import RpcTransport.Clock
import RpcTransport.Completion
import RpcTransport.WriteState

/-!
# Requests that await their outcome

The table of a connection holds one entry per request id. Whoever takes an entry out has the only
right to resolve it, which is why a response, a deadline, a failed write and the end of the
connection cannot resolve a request twice.

The write state of a request outlives its entry: the writer keeps marking it after the request was
resolved. Write states are therefore kept apart, by ticket; a ticket is issued once and is its
place in that list, so no two requests share one.
-/

namespace RpcTransport

structure Pending where
  id : UInt64
  completion : Completion
  /-- In milliseconds. -/
  timeout : Nat
  timer : Option Nat
deriving DecidableEq, Repr

/-- The instant from which a request that is made now is overdue. No timer is armed for longer than
a year, so nobody waits longer. -/
def Pending.deadline? (now timeout : Nat) : Option Nat := Clock.after? now (Clock.clamp timeout)

def Pending.ticket (p : Pending) : Nat := p.completion.ticket

structure PendingTable where
  connection : String
  peer : String
  entries : List Pending
  writes : List WriteState
deriving DecidableEq, Repr

namespace PendingTable

def empty (connection peer : String) : PendingTable := ⟨connection, peer, [], []⟩

def find? (t : PendingTable) (id : UInt64) : Option Pending := t.entries.find? (·.id = id)

def contains (t : PendingTable) (id : UInt64) : Bool := (t.find? id).isSome

def size (t : PendingTable) : Nat := t.entries.length

def ids (t : PendingTable) : List UInt64 := t.entries.map (·.id)

/-! ## Write states -/

def writeState (t : PendingTable) (ticket : Nat) : WriteState := t.writes.getD ticket default

def markWritten (t : PendingTable) (ticket : Nat) : PendingTable :=
  { t with writes := t.writes.modify ticket WriteState.markWritten }

def markFailed (t : PendingTable) (ticket : Nat) (reason : String) : PendingTable :=
  { t with writes := t.writes.modify ticket fun w ↦ w.markFailed reason }

/-! ## Entries -/

/-- A ticket that no other request has. -/
def issue (t : PendingTable) : Nat × PendingTable :=
  (t.writes.length, { t with writes := t.writes ++ [.initial] })

/-- Take an entry out. -/
def take (t : PendingTable) (id : UInt64) : Option Pending × PendingTable :=
  (t.find? id, { t with entries := t.entries.filter (·.id ≠ id) })

/-- Add a request. A request still pending under its id is failed. -/
def insert (t : PendingTable) (id : UInt64) (completion : Completion) (timeout : Nat) :
    Option Delivery × PendingTable :=
  let (previous, t) := t.take id
  (previous.map fun p ↦ p.completion.fail (.internal s!"request id {id.toNat} reused"),
    { t with entries := t.entries ++ [⟨id, completion, timeout, none⟩] })

/-- Note the timer of a request that is still pending. -/
def setTimer (t : PendingTable) (id : UInt64) (token : Nat) : Bool × PendingTable :=
  (t.contains id,
    { t with entries := t.entries.map fun p ↦
        if p.id = id then { p with timer := some token } else p })

/-- Resolve a request whose write failed. -/
def failWrite (t : PendingTable) (id : UInt64) (reason : String) :
    Option Delivery × PendingTable :=
  match t.take id with
  | (none, t) => (none, t)
  | (some p, t) =>
    let error :=
      TransportError.connectFailed t.peer s!"write of request {id.toNat} failed: {reason}"
    (some (p.completion.fail error), t.markFailed p.ticket reason)

/-- Error texts count milliseconds in 64 bits. -/
def shownMillis (timeout : Nat) : Nat := timeout % 0x10000000000000000

/-- Why a request that was not answered in time failed: by how far its write got. -/
def timeoutError (t : PendingTable) (p : Pending) : TransportError :=
  let w := t.writeState p.ticket
  match w.phase with
  | .failed => .connectFailed t.peer (w.reason.getD "write failed")
  | .awaiting => .requestTimeout t.connection p.id (shownMillis p.timeout)
  | .written => .responseTimeout t.connection p.id (shownMillis p.timeout)

/-- The deadline of a request has passed. -/
def expire (t : PendingTable) (id : UInt64) : Option Delivery × PendingTable :=
  match t.take id with
  | (none, t) => (none, t)
  | (some p, t) => (some (p.completion.fail (t.timeoutError p)), t)

/-- Take out the entries of some ids, in their order. -/
def takeAll (t : PendingTable) : List UInt64 → List Pending × PendingTable
  | [] => ([], t)
  | id :: ids =>
    let (taken, t) := t.take id
    let (others, t) := t.takeAll ids
    (taken.toList ++ others, t)

/-- Take out every entry whose id is seen now. -/
def drain (t : PendingTable) : List Pending × PendingTable := t.takeAll t.ids

/-- Fail every request that is pending now. -/
def failAll (t : PendingTable) (e : TransportError) : List Delivery × PendingTable :=
  let (taken, t) := t.drain
  (taken.map fun p ↦ p.completion.fail e, t)

end PendingTable

end RpcTransport
