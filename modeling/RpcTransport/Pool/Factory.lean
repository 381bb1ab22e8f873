import RpcTransport.Connection.Session
import RpcTransport.Connection.Wire

/-!
# The connections of a pool

A factory makes client connections on new pipes. Each attempt takes some time and may fail.
-/

namespace RpcTransport

instance : Closable ConnectionSession where
  isClosed s := s.connection.closed
  close reason s := { s with link := Closable.close reason s.link }

/-- What makes the connections of a pool. -/
structure ConnectionFactory where
  /-- What it connects to, for messages. -/
  target : String
  /-- Who its connections are; the generation is that of the attempt. -/
  info : ConnectionInfo
  config : ConnectionConfig
  dispatch : DispatchConfig
  /-- The shortest delay of a deadline on its connections. -/
  leastDelay : Nat
  /-- How long each attempt takes. -/
  delay : Nat
  /-- How many of the next attempts fail; all of them if `none`. -/
  failures : Option Nat
  /-- What they fail with. -/
  refusal : TransportError
  created : Nat
deriving DecidableEq, Repr

namespace ConnectionFactory

/-- Connections on pipes whose far ends do not answer. -/
def ofPipes (name : String) (delay failures : Nat) : ConnectionFactory where
  target := "pipe"
  info := ⟨name, "pipe", .client, 0⟩
  config := { ConnectionConfig.standard with idleInterval := none }
  dispatch := { DispatchConfig.standard with offload := false }
  leastDelay := 0
  delay := delay
  failures := some failures
  refusal := .connectFailed "pipe" "refused"
  created := 0

/-- How much a pipe holds. -/
def pipeCapacity : Nat := 65536

/-- A new connection. -/
def make (f : ConnectionFactory) (generation now : Nat) : ConnectionSession :=
  let dispatcher := Dispatcher.ofConfig .standard 1 f.dispatch
  let c := Connection.start { f.info with generation := generation } f.config .standard dispatcher
  ⟨Link.start { c with leastDelay := f.leastDelay } none pipeCapacity now, []⟩

/-- The end of an attempt: a connection, unless a failure is due. -/
def attempt (f : ConnectionFactory) (generation now : Nat) :
    Option ConnectionSession × ConnectionFactory :=
  match f.failures with
  | none => (none, f)
  | some (n + 1) => (none, { f with failures := some n })
  | some 0 => (some (f.make generation now), { f with created := f.created + 1 })

end ConnectionFactory

end RpcTransport
