import RpcTransport.Closable
import RpcTransport.Text.Quoted

/-!
# Accepting connections

A server has one task for every stream that it accepted. After the handshake the task looks at the
stop flag, opens a connection, enters it in the list, waits for its end and takes it from the list
again. Stopping the server sets the flag, looks at the list once, and then takes every connection
that it saw there from the list and closes it.

The two run beside each other, so each of their actions is a step of its own here.
-/

namespace RpcTransport

structure Server (κ : Type) where
  address : String
  /-- No more streams are to be served. -/
  stopped : Bool
  /-- All connections that were opened, in order. -/
  members : List κ
  /-- The connections in the list, as positions in `members`. -/
  listed : List Nat

/-- What the task of an accepted stream does next. -/
inductive AcceptStage where
  | handshaking
  | checking
  | opening
  | listing (member : Nat)
  | serving (member : Nat)
  | unlisting (member : Nat)
  | ended
deriving DecidableEq, Repr

/-- What the one who stops the server does next. -/
inductive StopStage where
  | marking
  | scanning
  | removing (rest : List Nat)
  | closing (member : Nat) (rest : List Nat)
  | ended
deriving DecidableEq, Repr

namespace Server

variable {κ : Type}

def start (address : String) : Server κ := ⟨address, false, [], []⟩

def debugText (s : Server κ) : String :=
  s!"Server \x7b local_addr: {Quoted.quote s.address}, connections: {s.listed.length} \x7d"

variable [Closable κ]

def isClosedAt (s : Server κ) (m : Nat) : Bool :=
  (s.members[m]?.map Closable.isClosed).getD true

def closeMember (s : Server κ) (m : Nat) (reason : String) : Server κ :=
  { s with members := s.members.modify m (Closable.close reason) }

/-- One step of the task of an accepted stream, `c` being the connection that it opens. -/
def stepAccept (s : Server κ) (c : κ) : AcceptStage → Option (AcceptStage × Server κ)
  | .handshaking => some (.checking, s)
  | .checking => some (if s.stopped then .ended else .opening, s)
  | .opening => some (.listing s.members.length, { s with members := s.members ++ [c] })
  | .listing m => some (.serving m, { s with listed := s.listed ++ [m] })
  | .serving m => if s.isClosedAt m then some (.unlisting m, s) else none
  | .unlisting m => some (.ended, { s with listed := s.listed.erase m })
  | .ended => none

/-- One step of stopping. -/
def stepStop (s : Server κ) : StopStage → Option (StopStage × Server κ)
  | .marking => some (if s.stopped then .ended else .scanning, { s with stopped := true })
  | .scanning => some (.removing s.listed, s)
  | .removing [] => some (.ended, s)
  | .removing (m :: rest) =>
    if s.listed.contains m then some (.closing m rest, { s with listed := s.listed.erase m })
    else some (.removing rest, s)
  | .closing m rest => some (.removing rest, s.closeMember m "server shutting down")
  | .ended => none

/-- Serve a stream until its connection is open. The task has not entered the connection in the list
yet, and others may come before that. -/
def accept (s : Server κ) (c : κ) : AcceptStage × Server κ := go 3 .handshaking s
where
  go : Nat → AcceptStage → Server κ → AcceptStage × Server κ
    | 0, t, s => (t, s)
    | fuel + 1, t, s =>
      match s.stepAccept c t with
      | none => (t, s)
      | some (t, s) => go fuel t s

/-- Stop without a pause. What is not in the list when it is scanned is not closed. -/
def stop (s : Server κ) : Server κ := go (2 * s.listed.length + 3) .marking s
where
  go : Nat → StopStage → Server κ → Server κ
    | 0, _, s => s
    | fuel + 1, t, s =>
      match s.stepStop t with
      | none => s
      | some (t, s) => go fuel t s

end Server

end RpcTransport
