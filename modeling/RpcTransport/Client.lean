import RpcTransport.Network
import RpcTransport.Pool.Session

/-!
# Clients

A client encodes its arguments in the serialization it is configured with, leases a connection for
every call and returns the lease when the call is over. When the pool has no connection to spare it
asks once more, as its last attempt.
-/

namespace RpcTransport

/-- How streams are secured: what each end takes the other for, or that clients are turned away. -/
inductive ChannelSecurity where
  | none
  | identified (server client : String)
  | anonymous
  /-- The handshake fails on the client's side. -/
  | refusing (reason : String)
deriving DecidableEq, Repr

namespace ChannelSecurity

/-- What a client takes its server for, `address` being where it connected to. -/
def serverLabel (s : ChannelSecurity) (address : String) : String :=
  match s with
  | .identified server _ => server
  | _ => address

def clientLabel (s : ChannelSecurity) (address : String) : String :=
  match s with
  | .identified _ client => client
  | _ => address

/-- Why the handshake of a client fails, if it does. -/
def fault? : ChannelSecurity → Option String
  | .refusing reason => some s!"handshake: {reason}"
  | _ => .none

end ChannelSecurity

/-- The endpoint a client talks to, and the name its messages have for it. -/
structure Target where
  endpoint : Endpoint
  address : String
  security : ChannelSecurity

namespace Target

/-- The factory of connections to a target. -/
def factory (t : Target) (config : TransportConfig) (name : String) (listening : Bool) :
    ConnectionFactory :=
  let fault := Network.fault? t.endpoint listening
  let refusal := (fault <|> t.security.fault?).getD ""
  { target := t.address
    info := ⟨name, t.security.serverLabel t.address, .client, 0⟩
    config := config.connection
    dispatch := config.dispatch
    leastDelay := 1
    delay := if fault.isSome then 0 else 1
    failures := if (fault <|> t.security.fault?).isSome then none else some 0
    refusal := .connectFailed t.address refusal
    created := 0 }

end Target

namespace Client

/-- The waits of a client's pool. The clock goes on by itself, so some time passes in each. -/
def poolConfig (c : PoolConfig) : PoolConfig :=
  { c with acquireTimeout := max 1 c.acquireTimeout, inFlightWait := max 1 c.inFlightWait }

/-- An argument in the configured serialization. -/
def encode (registry : Registry) (config : ConnectionConfig) (v : Value) :
    Except TransportError Bytes :=
  (registry.encode config.serialization fun f ↦ f.writeValue v).mapError .ofSerialization

/-- What to ask the pool for after so many attempts that found it exhausted: the second attempt is
the last. -/
def leaseOptions (attempts : Nat) : AcquireOptions := ⟨none, decide (attempts ≠ 0)⟩

/-- Whether to ask the pool again. -/
def retriesLease (attempts : Nat) : TransportError → Bool
  | .poolExhausted _ => attempts = 0
  | _ => false

end Client

end RpcTransport
