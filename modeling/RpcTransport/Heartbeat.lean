import RpcTransport.Frame
import RpcTransport.Serialization.Registry

/-!
# Heartbeats

A connection that heard nothing for a while probes its peer. Any frame from the peer proves it
alive; a peer that left too many written probes unanswered is given up. A probe is counted when it
was written, not when it was decided on.
-/

namespace RpcTransport

structure Heartbeat where
  unanswered : Nat
deriving DecidableEq, Repr

inductive IdleDecision where
  | probe
  | close (unanswered : Nat)
deriving DecidableEq, Repr

namespace Heartbeat

def initial : Heartbeat := ⟨0⟩

/-- A frame came in. -/
def inbound (_ : Heartbeat) : Heartbeat := ⟨0⟩

/-- A probe was written. -/
def probeWritten (h : Heartbeat) : Heartbeat := ⟨h.unanswered + 1⟩

/-- What to do when nothing came in for a while. -/
def onIdle (h : Heartbeat) (maxUnanswered : Nat) : IdleDecision :=
  if maxUnanswered ≤ h.unanswered then .close h.unanswered else .probe

/-- A heartbeat request with the null of a backend. -/
def probe (registry : Registry) (id : UInt64) (serialization : UInt8) :
    Except SerializationError Frame :=
  (registry.nullOctets serialization).map fun null ↦
    Frame.heartbeatRequest id serialization (.detached null)

/-- The answer to a heartbeat request. -/
def answer (registry : Registry) (request : Frame) : Except SerializationError Frame :=
  (registry.nullOctets request.serialization).map fun null ↦
    Frame.heartbeatResponse request.id request.serialization (.detached null)

end Heartbeat

end RpcTransport
