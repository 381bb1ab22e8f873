import RpcTransport.Client
import RpcTransport.Server

/-!
# A client and its server

A client, the server it talks to, and the wires between them. Each connection of the client's pool
has its counterpart at the server, of the same position.

A call leases a connection, is made on it, and returns the lease once it was answered; one that only
submits returns the lease once it was submitted. `await` lets time pass until all calls are over.

On a single thread the server has come to rest whenever the caller goes on. On several the caller
may be ahead of it, until it waits for something: the tasks of the streams that it has just opened
have not entered their connections in the list of the server.
-/

namespace RpcTransport

/-- A call on its way. -/
structure ClientCall where
  name : String
  /-- How often the pool was found exhausted. -/
  attempts : Nat
  /-- What to do with the lease. -/
  action : ConnectionSession → ConnectionSession

/-- How the server answers. -/
structure ServerOptions where
  name : String
  peer : String
  config : ConnectionConfig
  dispatch : DispatchConfig
  handler : Handler

structure RpcSession where
  target : Target
  config : TransportConfig
  clients : PoolSession
  options : ServerOptions
  /-- There is no server at all if `none`. -/
  server : Option (Server Link)
  accepting : List AcceptStage
  /-- The caller runs beside the tasks of the server, and is ahead of those that have a connection to
  enter in the list. -/
  ahead : Bool
  calls : List ClientCall
  answers : List (String × PoolReport)

/-- A connection was opened, and has to be entered in the list. -/
def AcceptStage.isListing : AcceptStage → Bool
  | .listing _ => true
  | _ => false

namespace RpcSession

/-! ## The server's side -/

def makeServerLink (o : ServerOptions) (now : Nat) : Link :=
  let dispatcher := Dispatcher.ofConfig .standard 1 o.dispatch
  let c := Connection.start ⟨o.name, o.peer, .server, 0⟩ o.config .standard dispatcher
  Link.start c (some o.handler) ConnectionFactory.pipeCapacity now

def withServer (s : RpcSession) (server : Server Link) : RpcSession :=
  { s with server := some server }

/-- A stream that the client has opened is accepted. -/
def moveAcceptor (s : RpcSession) : Option RpcSession :=
  match s.server with
  | none => none
  | some server =>
    if server.members.length < s.clients.pool.members.length then
      let (stage, server) := server.accept (makeServerLink s.options s.clients.now)
      some { s.withServer server with accepting := s.accepting ++ [stage] }
    else none

/-- Where the first task stands that can make a step and is not held up, and the step. -/
def stepFirst (server : Server Link) (make : Link) (held : AcceptStage → Bool) :
    List AcceptStage → Option (List AcceptStage × Server Link)
  | [] => none
  | t :: ts =>
    match if held t then none else server.stepAccept make t with
    | some (t, server) => some (t :: ts, server)
    | none => (stepFirst server make held ts).map fun (ts, server) ↦ (t :: ts, server)

/-- A task of the server enters its connection in the list, or sees that it has ended. -/
def moveTasks (s : RpcSession) : Option RpcSession :=
  s.server.bind fun server ↦
    let make := makeServerLink s.options s.clients.now
    (stepFirst server make (fun t ↦ s.ahead && t.isListing) s.accepting).map
      fun (accepting, server) ↦ { s.withServer server with accepting := accepting }

def settleServer (s : RpcSession) : RpcSession :=
  match s.server with
  | none => s
  | some server => s.withServer { server with members := server.members.map Link.settle }

/-! ## The wires -/

/-- The first position at which two links have something to carry. -/
def firstExchange : List ConnectionSession → List Link →
    Option (List ConnectionSession × List Link)
  | c :: cs, l :: ls =>
    match c.link.exchange? l with
    | some (a, b) => some ({ c with link := a } :: cs, b :: ls)
    | none => (firstExchange cs ls).map fun (cs, ls) ↦ (c :: cs, l :: ls)
  | _, _ => none

def moveWires (s : RpcSession) : Option RpcSession :=
  s.server.bind fun server ↦
    (firstExchange (s.clients.pool.members.map (·.connection)) server.members).map
      fun (connections, links) ↦
        let members := (s.clients.pool.members.zip connections).map fun (m, c) ↦
          { m with connection := c }
        let pool := { s.clients.pool with members := members }
        { s.withServer { server with members := links } with
          clients := { s.clients with pool := pool } }

/-! ## Calls -/

/-- What a report means for the call it belongs to. -/
def onReport (s : RpcSession) (name : String) (r : PoolReport) : RpcSession :=
  match r, s.calls.find? (·.name = name) with
  | .leased _, some call => { s with clients := s.clients.call name call.action }
  | .failed e, some call =>
    if Client.retriesLease call.attempts e then
      let call := { call with attempts := call.attempts + 1 }
      { s with
        calls := call :: s.calls.filter (·.name ≠ name)
        clients := s.clients.acquire name (Client.leaseOptions call.attempts) }
    else { s with answers := s.answers ++ [(name, r)] }
  | _, some _ =>
    { s with clients := (s.clients.release name).2, answers := s.answers ++ [(name, r)] }
  | _, none => { s with answers := s.answers ++ [(name, r)] }

/-- Take note of what the client's side has to report. -/
def moveCalls (s : RpcSession) : Option RpcSession :=
  match s.clients.collect with
  | ([], _) => none
  | (reports, clients) =>
    some (reports.foldl (fun s r ↦ s.onReport r.1 r.2) { s with clients := clients })

/-! ## All together -/

def patience : Nat := 1000000

def settleFor : (fuel : Nat) → RpcSession → RpcSession
  | 0, s => s
  | fuel + 1, s =>
    let s := { s with clients := s.clients.settle }.settleServer
    match s.moveAcceptor <|> s.moveTasks <|> s.moveWires <|> s.moveCalls with
    | none => s
    | some s => settleFor fuel s

def settle (s : RpcSession) : RpcSession := settleFor patience s

def nextDue? (s : RpcSession) : Option Nat :=
  let links := (s.server.map (·.members)).getD []
  (s.clients.nextDue?.toList ++ links.filterMap Link.nextDue?).min?

def advanceTo (s : RpcSession) (instant : Nat) : RpcSession :=
  { s with
    clients := s.clients.advanceTo instant
    server := s.server.map fun server ↦
      { server with members := server.members.map (·.advanceTo instant) } }

/-- Whether every call is over. -/
def isIdle (s : RpcSession) : Bool := s.clients.waiting = 0

def awaitFor : (fuel : Nat) → RpcSession → RpcSession
  | 0, s => s
  | fuel + 1, s =>
    if s.isIdle then s
    else
      match s.nextDue? with
      | none => s
      | some due => awaitFor fuel (s.advanceTo due).settle

/-- Let time pass until every call is over, and give their answers. -/
def await (s : RpcSession) : List (String × PoolReport) × RpcSession :=
  let s := awaitFor patience s.settle
  (s.answers, { s with answers := [], calls := [] })

/-! ## Opening and closing -/

/-- A client of a server, or of nobody. The first answers tell of a failure to open. There is no
client if there cannot be its workers or its pool. On several threads the caller is ahead of the
server then. -/
def open? (target : Target) (config : TransportConfig) (clientName : String)
    (options : ServerOptions) (serving threaded : Bool) :
    Option (List (String × PoolReport) × RpcSession) := do
  let _ ← Dispatcher.open? .standard 1 config.dispatch
  let factory := target.factory config clientName serving
  let clients ← PoolSession.open? (Client.poolConfig config.pool) factory
  let server := if serving then some (Server.start target.address) else none
  let s : RpcSession := ⟨target, config, clients, options, server, [], threaded, [], []⟩
  return s.await

/-- The client closes its connections. -/
def close (s : RpcSession) : RpcSession :=
  { s with clients := s.clients.closeAll, ahead := false }.settle

/-- The server stops: its socket is gone, and nobody can connect any more. A connection that is
entered in the list only afterwards stays open. -/
def shutdown (s : RpcSession) : RpcSession :=
  match s.server with
  | none => s
  | some server =>
    let factory := s.target.factory s.config s.clients.factory.info.name false
    let stopped := s.withServer server.stop
    { stopped with clients := { s.clients with factory := factory }, ahead := false }.settle

/-! ## Making calls -/

/-- Lease a connection and do something with it. -/
def call (s : RpcSession) (name : String) (action : ConnectionSession → ConnectionSession) :
    RpcSession :=
  { s with
    calls := s.calls ++ [⟨name, 0, action⟩]
    clients := s.clients.acquire name (Client.leaseOptions 0)
    ahead := false }

/-- Send a request with an encoded argument. -/
def requestBody (s : RpcSession) (name : String) (kind : CompletionKind) (apart : Bool)
    (body : Bytes) (timeout : Option Nat) : RpcSession :=
  s.call name fun c ↦ c.request name kind apart body timeout

def encode (s : RpcSession) (v : Value) : Except TransportError Bytes :=
  Client.encode .standard s.config.connection v

/-- Encode an argument and go on with it; a call whose argument cannot be encoded has failed. -/
def withEncoded (s : RpcSession) (name : String) (v : Value) (k : Bytes → RpcSession) :
    RpcSession :=
  match s.encode v with
  | .ok body => k body
  | .error e => { s with answers := s.answers ++ [(name, .failed e)] }

def request (s : RpcSession) (name : String) (v : Value) : RpcSession :=
  s.withEncoded name v fun body ↦ s.requestBody name .decoded false body none

def oneway (s : RpcSession) (name : String) (v : Value) : RpcSession :=
  s.withEncoded name v fun body ↦ s.call name fun c ↦ c.oneway name body

/-! ## Views -/

/-- The requests the handlers of the server were called with, connection by connection. -/
def handled (s : RpcSession) : List (List InboundRequest) :=
  ((s.server.map (·.members)).getD []).map (·.handled)

/-- The number of connections at the server. -/
def connectionCount (s : RpcSession) : Nat := (s.server.map (·.listed.length)).getD 0

end RpcSession

end RpcTransport
