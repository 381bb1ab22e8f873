import RpcTransport.Pool.Acquire
import RpcTransport.Pool.Factory

/-!
# A pool with its callers

A pool with the acquisitions of its callers, the factory that makes its connections, and the leases
callers hold, each under a name. The clock moves only when told to. Of the acquisitions that can go
on, the one that started first does, and goes on until it has to wait.

An acquisition keeps the pool: when the handle is dropped, the connections are closed as soon as the
last acquisition has ended.

One timing wheel serves all connections. It is lent to the connection whose turn it is, and taken
back after that.
-/

namespace RpcTransport

/-- The acquisition of one caller. -/
structure AcquireTask where
  name : String
  acquire : Acquire
  /-- When the attempt under way will have ended. -/
  attemptDue : Option Nat

/-- When an acquisition, or the factory for it, goes on by itself. -/
def AcquireTask.due? (t : AcquireTask) : Option Nat :=
  match t.acquire.stage with
  | .connecting _ _ => t.attemptDue
  | _ => t.acquire.due?

/-- The caller gives up. -/
def AcquireTask.abort (t : AcquireTask) : AcquireTask :=
  { t with acquire := t.acquire.abort.getD t.acquire }

/-- What callers are told. -/
inductive PoolReport where
  /-- A lease on the connection of a generation. -/
  | leased (generation : Nat)
  | failed (e : TransportError)
  | aborted
  /-- A request on a lease. -/
  | answered (r : Report)

structure PoolSession where
  now : Nat
  pool : Pool ConnectionSession
  factory : ConnectionFactory
  wheel : TimingWheel Nat
  tasks : List AcquireTask
  /-- Who holds which member. -/
  leases : List (String × Nat)
  /-- The members remembered under a name. -/
  kept : List (String × Nat)
  /-- The handle of the pool is gone. -/
  dropped : Bool
  /-- The connections were closed after that. -/
  discarded : Bool

namespace PoolSession

/-! ## Moves -/

/-- Lend a connection the wheel, do something with it, and take the wheel back. -/
def lendWheel (wheel : TimingWheel Nat) (f : ConnectionSession → ConnectionSession)
    (m : Member ConnectionSession) : TimingWheel Nat × Member ConnectionSession :=
  let c := f { m.connection with link := m.connection.link.withWheel wheel }
  (c.connection.wheel, { m with connection := c })

/-- Each connection in turn moves as far as it can. -/
def settleEach (wheel : TimingWheel Nat) :
    List (Member ConnectionSession) → TimingWheel Nat × List (Member ConnectionSession)
  | [] => (wheel, [])
  | m :: ms =>
    let (wheel, m) := lendWheel wheel (fun c ↦ { c with link := c.link.settle }) m
    let (wheel, ms) := settleEach wheel ms
    (wheel, m :: ms)

def settleMembers (s : PoolSession) : PoolSession :=
  let (wheel, members) := settleEach s.wheel s.pool.members
  { s with wheel := wheel, pool := { s.pool with members := members } }

/-- A deadline is due; the connection that it is for will see to it. -/
def moveDeadline (s : PoolSession) : Option PoolSession := s.wheel.dueTarget?.map fun _ ↦ s

/-- The first watched member that has closed is pruned. -/
def moveWatcher (s : PoolSession) : Option PoolSession :=
  match s.pool.watched.find? s.pool.isClosedAt with
  | none => none
  | some m =>
    let pool := { s.pool with watched := s.pool.watched.erase m }
    some { s with pool := pool.performAll Pool.closedActions }

/-- An acquisition goes on until it waits, together with the factory. -/
def runTask (now : Nat) : (fuel : Nat) → AcquireTask → ConnectionFactory → Pool ConnectionSession →
    AcquireTask × ConnectionFactory × Pool ConnectionSession
  | 0, t, f, p => (t, f, p)
  | fuel + 1, t, f, p =>
    let (a, p) := t.acquire.run now Acquire.patience p
    let t := { t with acquire := a }
    match a.stage with
    | .connecting _ generation =>
      let due := t.attemptDue.getD (now + f.delay)
      if now < due then ({ t with attemptDue := some due }, f, p)
      else
        match f.attempt generation now with
        | (some c, f) =>
          let (a, p) := a.connected p c
          runTask now fuel { t with acquire := a, attemptDue := none } f p
        | (none, f) =>
          let a := a.refused p now f.refusal
          runTask now fuel { t with acquire := a, attemptDue := none } f p
    | _ => (t, f, p)

def patience : Nat := 1000000

/-- Whether an acquisition can go on now. -/
def isReady (s : PoolSession) (t : AcquireTask) : Bool :=
  (t.acquire.step s.pool s.now).isSome ||
    match t.acquire.stage with
    | .connecting _ _ => (t.attemptDue.map fun due ↦ decide (due ≤ s.now)).getD true
    | _ => false

/-- The first acquisition that can go on does. -/
def moveTask (s : PoolSession) : Option PoolSession :=
  match s.tasks.span fun t ↦ !s.isReady t with
  | (_, []) => none
  | (before, t :: after) =>
    let (t, factory, pool) := runTask s.now patience t s.factory s.pool
    some { s with tasks := before ++ t :: after, factory := factory, pool := pool }

/-- Close the connections once nobody can reach the pool. -/
def moveDiscard (s : PoolSession) : Option PoolSession :=
  if s.dropped && !s.discarded && s.tasks.all (·.acquire.outcome?.isSome) then
    some { s with pool := s.pool.discard, discarded := true }
  else none

def settleFor : (fuel : Nat) → PoolSession → PoolSession
  | 0, s => s
  | fuel + 1, s =>
    let s := s.settleMembers
    match s.moveDeadline <|> s.moveWatcher <|> s.moveTask <|> s.moveDiscard with
    | none => s
    | some s => settleFor fuel s

def settle (s : PoolSession) : PoolSession := settleFor patience s

/-! ## Time -/

/-- When something will happen by itself. -/
def nextDue? (s : PoolSession) : Option Nat :=
  (s.wheel.nextDue?.toList ++ s.tasks.filterMap AcquireTask.due? ++
    s.pool.members.filterMap fun m ↦ m.connection.link.taskDue?).min?

def advanceTo (s : PoolSession) (instant : Nat) : PoolSession :=
  { s with
    now := max s.now instant
    wheel := s.wheel.advanceTo instant
    pool := { s.pool with members := s.pool.members.map fun m ↦
      { m with connection := { m.connection with
          link := m.connection.link.advanceTo instant } } } }

/-- Go on to an instant, stopping whenever something is due. -/
def runUntil (instant : Nat) : (fuel : Nat) → PoolSession → PoolSession
  | 0, s => s.advanceTo instant
  | fuel + 1, s =>
    match s.nextDue? with
    | none => s.advanceTo instant
    | some due =>
      if due ≤ instant then runUntil instant fuel (s.advanceTo due).settle else s.advanceTo instant

def sleep (s : PoolSession) (millis : Nat) : PoolSession :=
  (s.runUntil (s.now + millis) patience).settle

/-! ## Opening -/

/-- Let time pass until every acquisition has ended. -/
def awaitTasks : (fuel : Nat) → PoolSession → PoolSession
  | 0, s => s
  | fuel + 1, s =>
    if s.tasks.all (·.acquire.outcome?.isSome) then s
    else
      match s.nextDue? with
      | none => s
      | some due => awaitTasks fuel (s.advanceTo due).settle

/-- Open a pool, with its first connection if it makes one at once. There is no pool if there cannot
be so many permits. -/
def open? (config : PoolConfig) (factory : ConnectionFactory) : Option PoolSession :=
  (Pool.open? config factory.target).map fun pool ↦
    let tasks := if config.eagerInit then [⟨"", .startEager 0, none⟩] else []
    let s : PoolSession := ⟨0, pool, factory, .start, tasks, [], [], false, false⟩
    awaitTasks patience s.settle

/-! ## Calls -/

def withPool (s : PoolSession) (p : Pool ConnectionSession) : PoolSession :=
  { s with pool := p }.settle

def acquire (s : PoolSession) (name : String) (options : AcquireOptions) : PoolSession :=
  if s.dropped then s
  else
    let task : AcquireTask := ⟨name, .start s.pool.config options s.now, none⟩
    { s with tasks := s.tasks ++ [task] }.settle

/-- Give up an acquisition that has not ended. -/
def abort (s : PoolSession) (name : String) : PoolSession :=
  let tasks := s.tasks.map fun t ↦ if t.name = name then t.abort else t
  { s with tasks := tasks }.settle

/-- End the lease of a name; whether there was one. -/
def release (s : PoolSession) (name : String) : Bool × PoolSession :=
  match s.leases.lookup name with
  | none => (false, s)
  | some m =>
    let leases := s.leases.filter (·.1 ≠ name)
    (true, { s with leases := leases }.withPool (s.pool.performAll (Pool.releaseActions m)))

def modifyConnection (s : PoolSession) (m : Nat) (f : ConnectionSession → ConnectionSession) :
    PoolSession :=
  match s.pool.members[m]? with
  | none => s.settle
  | some x =>
    let (wheel, x) := lendWheel s.wheel f x
    { s with wheel := wheel }.withPool { s.pool with members := s.pool.members.set m x }

/-- Make a call on a leased connection. -/
def call (s : PoolSession) (name : String) (f : ConnectionSession → ConnectionSession) :
    PoolSession :=
  match s.leases.lookup name with
  | none => s
  | some m => s.modifyConnection m f

def closeConnection (s : PoolSession) (name reason : String) : PoolSession :=
  match s.leases.lookup name with
  | none => s
  | some m => s.withPool (s.pool.closeMember m reason)

/-- Remember the connection of a lease. -/
def keep (s : PoolSession) (name : String) : PoolSession :=
  match s.leases.lookup name with
  | none => s
  | some m => { s with kept := (name, m) :: s.kept }

def keptConnection? (s : PoolSession) (name : String) : Option Connection :=
  ((s.kept.lookup name).bind (s.pool.members[·]?)).map (·.connection.connection)

/-- Drop the far end of the connection of a generation; whether it was there. -/
def hangUp (s : PoolSession) (generation : Nat) : Bool × PoolSession :=
  let found := s.pool.members.findIdx? fun m ↦
    m.connection.connection.generation == generation && !m.connection.link.outbound.readerGone
  match found with
  | none => (false, s)
  | some m => (true, s.modifyConnection m fun c ↦ { c with link := c.link.hangUp })

def closeAll (s : PoolSession) : PoolSession :=
  if s.dropped then s else s.withPool s.pool.closeAll

def dropPool (s : PoolSession) : PoolSession := { s with dropped := true }.settle

/-! ## Reports -/

def report? (p : Pool ConnectionSession) : AcquireOutcome → Option PoolReport
  | .leased m => some (.leased ((p.members[m]?.map (·.connection.connection.generation)).getD 0))
  | .made _ => none
  | .failed e => some (.failed e)
  | .aborted => some .aborted
  | .overflow => none

/-- A caller gets a lease; one it has under the same name ends. -/
def hold (s : PoolSession) (name : String) (m : Nat) : PoolSession :=
  let s := match s.leases.lookup name with
    | some old => { s with pool := s.pool.performAll (Pool.releaseActions old) }
    | none => s
  { s with leases := (name, m) :: s.leases.filter (·.1 ≠ name) }

/-- Take note of the acquisitions that have ended. -/
def collectTasks (s : PoolSession) : List (String × PoolReport) × PoolSession :=
  let ended := s.tasks.filterMap fun t ↦ t.acquire.outcome?.map fun o ↦ (t.name, o)
  let reports := ended.filterMap fun (name, o) ↦ (report? s.pool o).map fun r ↦ (name, r)
  let s := { s with tasks := s.tasks.filter (·.acquire.outcome?.isNone) }
  let s := ended.foldl (fun s e ↦ match e.2 with
    | .leased m => s.hold e.1 m
    | _ => s) s
  (reports, s)

/-- Take note of the requests that were answered. -/
def collectAnswers (s : PoolSession) : List (String × PoolReport) × PoolSession :=
  let collected := s.pool.members.map fun m ↦ (m.connection.collect, m.leases)
  let reports := collected.flatMap fun (c, _) ↦ c.1.map fun (name, r) ↦ (name, .answered r)
  let members := collected.map fun (c, leases) ↦ ⟨c.2, leases⟩
  (reports, { s with pool := { s.pool with members := members } })

def collect (s : PoolSession) : List (String × PoolReport) × PoolSession :=
  let (first, s) := s.collectTasks
  let (second, s) := s.collectAnswers
  (first ++ second, s)

/-- How many calls have not ended. -/
def waiting (s : PoolSession) : Nat :=
  (s.tasks.filter (·.acquire.outcome?.isNone)).length +
    s.pool.members.foldl (fun n m ↦ n + m.connection.calls.length) 0

end PoolSession

end RpcTransport
