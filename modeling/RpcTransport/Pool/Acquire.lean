import RpcTransport.Clock
import RpcTransport.Pool

/-!
# Acquiring a connection

An acquisition goes round until it has a connection or fails: look at the closed flag, start to
listen for changes, take an idle connection, else reserve a permit and make a connection, else share
the open connection with the fewest leases, else wait. It listens before it looks, so that a change
made after the look ends the wait.

`step` makes one atomic step. It waits for others at two places only: for the factory, which answers
through `connected` or `refused`, and for a change or a deadline.

A creation makes a limited number of attempts, each with a number of its own, and pauses between
them. Whatever ends it, also `abort`, leaves a list of actions to perform.
-/

namespace RpcTransport

/-- How an acquisition ended. -/
inductive AcquireOutcome where
  | leased (member : Nat)
  /-- A connection was made, and nobody uses it yet. -/
  | made (member : Nat)
  | failed (e : TransportError)
  | aborted
  /-- A deadline is later than the clock can tell. -/
  | overflow
deriving DecidableEq, Repr

inductive AcquireStage where
  /-- Look at the closed flag. -/
  | checking
  /-- Start to listen for changes. -/
  | listening
  /-- Prune, and take an idle connection. -/
  | choosing (seen : Nat)
  /-- Take a permit. -/
  | reserving (seen : Nat)
  /-- A permit is there: count the creation. -/
  | entering
  /-- Ask the factory for a connection, after so many attempts that failed. -/
  | attempting (made : Nat)
  /-- The factory is at work on the attempt of this number. -/
  | connecting (made generation : Nat)
  | pausing (made due : Nat)
  /-- The factory has made a connection. -/
  | holding (member : Nat)
  /-- Put the connection into the pool. -/
  | adopting (member : Nat)
  /-- Share an open connection. -/
  | sharing (seen : Nat)
  /-- Wait, or give up. -/
  | deciding (seen : Nat)
  | waiting (seen deadline : Nat)
  /-- The outcome is known; some actions are still to perform. -/
  | ending (rest : List Pool.Action) (outcome : AcquireOutcome)
deriving DecidableEq, Repr

/-- What a caller asks for. -/
structure AcquireOptions where
  /-- Instead of the time the pool is configured with. -/
  timeout : Option Nat
  /-- The caller will not try again. -/
  lastAttempt : Bool
deriving DecidableEq, Repr

def AcquireOptions.standard : AcquireOptions := ⟨none, false⟩

structure Acquire where
  lastAttempt : Bool
  /-- Make a connection for the pool, and use none. -/
  eager : Bool
  deadline : Nat
  inFlightDeadline : Option Nat
  stage : AcquireStage
deriving DecidableEq, Repr

namespace Acquire

def finish (a : Acquire) (rest : List Pool.Action) (o : AcquireOutcome) : Acquire :=
  { a with stage := .ending rest o }

def failWith (a : Acquire) (e : TransportError) : Acquire := a.finish [] (.failed e)

/-- An acquisition that starts now. -/
def start (config : PoolConfig) (options : AcquireOptions) (now : Nat) : Acquire :=
  let a : Acquire := ⟨options.lastAttempt, false, now, none, .checking⟩
  match Clock.after? now (options.timeout.getD config.acquireTimeout) with
  | some deadline => { a with deadline := deadline }
  | none => a.finish [] .overflow

/-- The first connection of a pool that makes one at once. -/
def startEager (now : Nat) : Acquire := ⟨false, true, now, none, .reserving 0⟩

def outcome? (a : Acquire) : Option AcquireOutcome :=
  match a.stage with
  | .ending [] o => some o
  | _ => none

/-- How many attempts a creation has. -/
def attempts (config : PoolConfig) : Nat := min (config.maxCreateRetries + 1) word32

/-- What is to do when a creation ends without a connection. -/
def abandoned : List Pool.Action := [.leaveCreation, .returnPermit]

variable {κ : Type}

/-- What is to do when a connection was put into the pool. -/
def adopted (a : Acquire) (m : Nat) : List Pool.Action :=
  if a.eager then [.notify, .watch m] else [.notify, .watch m, .leaveCreation]

/-- What is to do when the pool was closed before a connection was put into it. -/
def unadopted (a : Acquire) (m : Nat) : List Pool.Action :=
  [.close m "connection pool closed", .returnPermit] ++
    if a.eager then [] else [.dropLease m, .notify, .leaveCreation]

/-! ## The factory -/

/-- The factory has made a connection. -/
def connected (a : Acquire) (p : Pool κ) (c : κ) : Acquire × Pool κ :=
  let (m, p) := p.addMember c
  ({ a with stage := .holding m }, p)

/-- The factory has failed. -/
def refused (a : Acquire) (p : Pool κ) (now : Nat) (e : TransportError) : Acquire :=
  match a.stage with
  | .connecting made _ =>
    let made := made + 1
    let attempts := attempts p.config
    if made < attempts then { a with stage := .pausing made (now + p.config.retryDelay) }
    else
      a.finish abandoned (.failed
        (.connectFailed p.target s!"{attempts} attempts failed, last error: {e.message}"))
  | _ => a

/-! ## Steps -/

/-- Until when to wait: `none` gives up. -/
def waitUntil (a : Acquire) (p : Pool κ) (now : Nat) : Option Nat × Acquire :=
  if p.config.blockWhenExhausted then (some a.deadline, a)
  else if a.lastAttempt ∧ p.config.waitForInFlight ∧ p.creating > 0 then
    match a.inFlightDeadline with
    | some deadline => (some deadline, a)
    | none =>
      match Clock.after? now p.config.inFlightWait with
      | some deadline => (some deadline, { a with inFlightDeadline := some deadline })
      | none => (none, a.finish [] .overflow)
  else (none, a.failWith (.poolExhausted p.config.maxSize))

variable [Closable κ]

/-- One step, unless the acquisition has ended or has to wait. -/
def step (a : Acquire) (p : Pool κ) (now : Nat) : Option (Acquire × Pool κ) :=
  match a.stage with
  | .checking =>
    some (if p.closed then (a.failWith .poolClosed, p) else ({ a with stage := .listening }, p))
  | .listening => some ({ a with stage := .choosing p.changes }, p)
  | .choosing seen =>
    let p := p.prune
    match p.pickIdle with
    | some m => some (a.finish [] (.leased m), p.addLease m)
    | none => some ({ a with stage := .reserving seen }, p)
  | .reserving seen =>
    if p.permits > 0 then some ({ a with stage := .entering }, { p with permits := p.permits - 1 })
    else if a.eager then some (a.failWith p.exhausted, p)
    else some ({ a with stage := .sharing seen }, p)
  | .entering => some ({ a with stage := .attempting 0 }, { p with creating := p.creating + 1 })
  | .attempting made =>
    let generation := p.generation + 1
    some ({ a with stage := .connecting made generation }, { p with generation := generation })
  | .connecting _ _ => none
  | .pausing made due => if due ≤ now then some ({ a with stage := .attempting made }, p) else none
  | .holding m =>
    let p := if a.eager then p.perform .leaveCreation else p.addLease m
    some ({ a with stage := .adopting m }, p)
  | .adopting m =>
    match p.adopt m with
    | some p => some (a.finish (a.adopted m) (if a.eager then .made m else .leased m), p)
    | none => some (a.finish (a.unadopted m) (.failed .poolClosed), p)
  | .sharing seen =>
    match p.pickLeastLeased with
    | some m => some (a.finish [] (.leased m), p.addLease m)
    | none => some ({ a with stage := .deciding seen }, p)
  | .deciding seen =>
    match a.waitUntil p now with
    | (some deadline, a) => some ({ a with stage := .waiting seen deadline }, p)
    | (none, a) => some (a, p)
  | .waiting seen deadline =>
    if p.changes ≠ seen then some ({ a with stage := .checking }, p)
    else if deadline ≤ now then some (a.failWith p.exhausted, p)
    else none
  | .ending (action :: rest) o => some (a.finish rest o, p.perform action)
  | .ending [] _ => none

/-- The caller has lost interest while the acquisition waits. -/
def abort (a : Acquire) : Option Acquire :=
  match a.stage with
  | .connecting _ _ | .pausing _ _ => some (a.finish abandoned .aborted)
  | .waiting _ _ => some (a.finish [] .aborted)
  | _ => none

/-- Step until the acquisition has ended or has to wait. -/
def run (now : Nat) : (fuel : Nat) → Acquire → Pool κ → Acquire × Pool κ
  | 0, a, p => (a, p)
  | fuel + 1, a, p =>
    match a.step p now with
    | none => (a, p)
    | some (a, p) => run now fuel a p

/-- More steps than an acquisition makes between two waits. -/
def patience : Nat := 64

/-- When the acquisition goes on by itself. -/
def due? (a : Acquire) : Option Nat :=
  match a.stage with
  | .pausing _ due => some due
  | .waiting _ deadline => some deadline
  | _ => none

end Acquire

end RpcTransport
