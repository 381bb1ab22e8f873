import RpcTransport.Connection.Link

/-!
# Named calls on a link

A session remembers what was asked of a connection under which name, and reports each outcome once.
A request that waits for its response is reported when the submission has returned and the response
is there; one that only submits reports the id first and the outcome apart.
-/

namespace RpcTransport

inductive Call where
  /-- Both in one report. -/
  | request (s : Submission)
  /-- The id, and the outcome apart; each flag tells that its report was made. -/
  | submission (s : Submission) (returned resolved : Bool)
  | written (waiter : Nat)
  | refused (e : TransportError)
  | closed

inductive Report where
  | resolution (r : Resolution)
  | returned (id : UInt64)
  | written
  | failed (e : TransportError)
  | closed

structure ConnectionSession where
  link : Link
  calls : List (String × Call)

namespace ConnectionSession

def connection (s : ConnectionSession) : Connection := s.link.connection

/-! ## Calls -/

def addCall (s : ConnectionSession) (name : String) (call : Call) (c : Connection) :
    ConnectionSession :=
  { link := { s.link with connection := c }.settle, calls := s.calls ++ [(name, call)] }

def request (s : ConnectionSession) (name : String) (kind : CompletionKind) (apart : Bool)
    (body : Bytes) (timeout : Option Nat) : ConnectionSession :=
  let (submission, c) := s.connection.submit kind body timeout
  s.addCall name (if apart then .submission submission false false else .request submission) c

def sendFrame (s : ConnectionSession) (name : String)
    (sent : Except TransportError Nat × Connection) : ConnectionSession :=
  match sent with
  | (.ok waiter, c) => s.addCall name (.written waiter) c
  | (.error e, c) => s.addCall name (.refused e) c

def oneway (s : ConnectionSession) (name : String) (body : Bytes) : ConnectionSession :=
  s.sendFrame name (s.connection.sendOneway body)

def event (s : ConnectionSession) (name : String) (body : Bytes) : ConnectionSession :=
  s.sendFrame name (s.connection.sendEvent body)

def awaitClosed (s : ConnectionSession) (name : String) : ConnectionSession :=
  s.addCall name .closed s.connection

/-! ## Reports -/

def delivered? (c : Connection) (s : Submission) : Option Resolution :=
  (c.deliveries.find? (·.ticket = s.completion.ticket)).map (·.resolution)

/-- A dropped completion is an error to a caller who waits for the response. -/
def awaited : Resolution → Resolution
  | .dropped => .failed (.internal "completion dropped")
  | r => r

/-- The reports of a call that can be made now, and the call if more will follow. -/
def report (c : Connection) (name : String) : Call → List (String × Report) × Option Call
  | .request s =>
    match delivered? c s with
    | some r =>
      if c.isWaiting s then ([], some (.request s)) else ([(name, .resolution (awaited r))], none)
    | none => ([], some (.request s))
  | .submission s returned resolved =>
    let now := !c.isWaiting s
    let first := if now && !returned then [(name, Report.returned s.id)] else []
    let second := if resolved then [] else
      ((delivered? c s).map fun r ↦ (name ++ "!", Report.resolution r)).toList
    let returned := returned || now
    let resolved := resolved || !second.isEmpty
    (first ++ second,
      if returned && resolved then none else some (.submission s returned resolved))
  | .written waiter =>
    match c.notices.lookup waiter with
    | none => ([], some (.written waiter))
    | some n =>
      match c.noticeResult n with
      | .ok () => ([(name, .written)], none)
      | .error e => ([(name, .failed e)], none)
  | .refused e => ([(name, .failed e)], none)
  | .closed => if c.cancelled then ([(name, .closed)], none) else ([], some .closed)

/-- A raw response that was reported has been used up. -/
def useUp (c : Connection) : Report → Connection
  | .resolution (.raw r) => c.release r.body
  | _ => c

/-- All reports that can be made now. -/
def collect (s : ConnectionSession) : List (String × Report) × ConnectionSession :=
  let results := s.calls.map fun (name, call) ↦ (name, report s.connection name call)
  let reports := results.flatMap fun (_, made, _) ↦ made
  let calls := results.filterMap fun (name, _, rest) ↦ rest.map fun call ↦ (name, call)
  let c := reports.foldl (fun c r ↦ useUp c r.2) s.connection
  (reports, { link := { s.link with connection := c }, calls := calls })

end ConnectionSession

end RpcTransport
