import RpcTransport.Closable
import RpcTransport.Config
import RpcTransport.Error
import RpcTransport.Semaphore
import RpcTransport.Text.Quoted

/-!
# The state of a pool

A pool makes at most as many connections as it has permits, and lends each to a bounded number of
callers. What its callers share is the list of open connections (the *slots*), the free permits, the
number of creations under way, and a count of changes that whoever waits for one listens to.

Every connection that was ever made for the pool is kept as a *member* with its number of leases, so
that a lease outlives the slot of its connection. A slot owns one permit, which is free again when
the slot is pruned or drained; a creation owns one from the moment it is reserved.

All that callers do to a pool are single actions of `Action`, and what a caller leaves to do when it
ends is a list of them: locals are released in the reverse of the order they were acquired in, so a
creation that fails leaves the count of creations, and tells the others, before its permit is free.
-/

namespace RpcTransport

/-- A connection made for the pool. -/
structure Member (κ : Type) where
  connection : κ
  leases : Nat
deriving DecidableEq, Repr

structure Pool (κ : Type) where
  config : PoolConfig
  /-- What connections are made to, for messages. -/
  target : String
  /-- All connections that were made, in order. -/
  members : List (Member κ)
  /-- The connections in the pool, as positions in `members`, in the order they came in. -/
  slots : List Nat
  /-- The free permits. -/
  permits : Nat
  /-- How many creations are under way. -/
  creating : Nat
  /-- The number of the last attempt to make a connection. -/
  generation : Nat
  closed : Bool
  /-- How often those who wait were told of a change. -/
  changes : Nat
  /-- The members whose end somebody waits for, to prune them. -/
  watched : List Nat

namespace Pool

variable {κ : Type}

def start (config : PoolConfig) (target : String) : Pool κ where
  config := config
  target := target
  members := []
  slots := []
  permits := config.maxSize
  creating := 0
  generation := 0
  closed := false
  changes := 0
  watched := []

/-- A new pool, if there can be so many permits. -/
def open? (config : PoolConfig) (target : String) : Option (Pool κ) :=
  (Semaphore.permits? config.maxSize).map fun permits ↦
    { start config target with permits := permits }

/-! ## Members -/

/-- The number of leases of a member. -/
def leasesOf (p : Pool κ) (m : Nat) : Nat := (p.members[m]?.map (·.leases)).getD 0

def modifyMember (p : Pool κ) (m : Nat) (f : Member κ → Member κ) : Pool κ :=
  { p with members := p.members.modify m f }

/-- A new member, without leases and not in the pool. -/
def addMember (p : Pool κ) (c : κ) : Nat × Pool κ :=
  (p.members.length, { p with members := p.members ++ [⟨c, 0⟩] })

/-- Lend a member once more. -/
def addLease (p : Pool κ) (m : Nat) : Pool κ :=
  p.modifyMember m fun x ↦ { x with leases := x.leases + 1 }

section

variable [Closable κ]

/-- Whether a member is closed. -/
def isClosedAt (p : Pool κ) (m : Nat) : Bool :=
  (p.members[m]?.map fun x ↦ Closable.isClosed x.connection).getD true

def closeMember (p : Pool κ) (m : Nat) (reason : String) : Pool κ :=
  p.modifyMember m fun x ↦ { x with connection := Closable.close reason x.connection }

/-! ## Choice -/

/-- Take closed connections out of the pool. Their permits are free again. -/
def prune (p : Pool κ) : Pool κ :=
  let kept := p.slots.filter fun m ↦ !p.isClosedAt m
  { p with slots := kept, permits := p.permits + (p.slots.length - kept.length) }

/-- The first open connection that nobody uses. -/
def pickIdle (p : Pool κ) : Option Nat :=
  p.slots.find? fun m ↦ !p.isClosedAt m && p.leasesOf m == 0

/-- The first of the members with the fewest leases. -/
def leastLeased (p : Pool κ) : List Nat → Option Nat
  | [] => none
  | m :: ms =>
    match leastLeased p ms with
    | none => some m
    | some best => if p.leasesOf best < p.leasesOf m then some best else some m

/-- The open connection with the fewest leases, if it may have one more. -/
def pickLeastLeased (p : Pool κ) : Option Nat :=
  p.leastLeased
    (p.slots.filter fun m ↦ !p.isClosedAt m && decide (p.leasesOf m < p.config.maxLeases))

/-- Whether an acquisition could succeed now without waiting. -/
def canAcquire (p : Pool κ) : Bool :=
  if p.closed then false
  else if p.permits > 0 then true
  else p.pickLeastLeased.isSome

/-! ## Entry -/

/-- Put a member into the pool, unless the pool is closed. -/
def adopt (p : Pool κ) (m : Nat) : Option (Pool κ) :=
  if p.closed then none else some { p with slots := p.slots ++ [m] }

/-! ## The end -/

/-- Set the closed flag; only the first to do so goes on. -/
def markClosed (p : Pool κ) : Bool × Pool κ := (!p.closed, { p with closed := true })

/-- Take all connections out of the pool. Their permits are not free yet. -/
def drain (p : Pool κ) : List Nat × Pool κ := (p.slots, { p with slots := [] })

/-! ## Views -/

/-- How many open connections there are in the pool. -/
def live (p : Pool κ) : Nat := (p.slots.filter fun m ↦ !p.isClosedAt m).length

/-- How many leases there are on connections in the pool. -/
def leased (p : Pool κ) : Nat := p.slots.foldl (fun n m ↦ n + p.leasesOf m) 0

def debugText (p : Pool κ) : String :=
  s!"ConnectionPool \x7b target: {Quoted.quote p.target}, max_size: {p.config.maxSize}, " ++
    s!"live: {p.live}, closed: {p.closed} \x7d"

def exhausted (p : Pool κ) : TransportError := .poolExhausted p.config.maxSize

/-! ## Actions -/

/-- What callers have to do to a pool, one step at a time. -/
inductive Action where
  /-- A lease has ended. -/
  | dropLease (member : Nat)
  /-- Tell those who wait of a change. -/
  | notify
  /-- A creation has ended; those who wait are told. -/
  | leaveCreation
  /-- A permit is free again. -/
  | returnPermit
  | close (member : Nat) (reason : String)
  | prune
  /-- Wait for the end of a member. -/
  | watch (member : Nat)
deriving DecidableEq, Repr

def perform (p : Pool κ) : Action → Pool κ
  | .dropLease m => p.modifyMember m fun x ↦ { x with leases := x.leases - 1 }
  | .notify => { p with changes := p.changes + 1 }
  | .leaveCreation => { p with creating := p.creating - 1, changes := p.changes + 1 }
  | .returnPermit => { p with permits := p.permits + 1 }
  | .close m reason => p.closeMember m reason
  | .prune => p.prune
  | .watch m => { p with watched := p.watched ++ [m] }

def performAll (p : Pool κ) (actions : List Action) : Pool κ := actions.foldl perform p

/-- What is to do when a lease ends. -/
def releaseActions (m : Nat) : List Action := [.dropLease m, .notify]

/-- What is to do when a watched member has closed. -/
def closedActions : List Action := [.prune, .notify]

/-- What is to do after a pool was drained on closing. -/
def drainedActions (drained : List Nat) : List Action :=
  drained.map (.close · "connection pool closed") ++ drained.map (fun _ ↦ .returnPermit) ++
    [.notify]

/-- Close the pool and every connection in it. -/
def closeAll (p : Pool κ) : Pool κ :=
  match p.markClosed with
  | (false, p) => p
  | (true, p) =>
    let (drained, p) := p.drain
    p.performAll (drainedActions drained)

/-- The last handle of the pool is gone: its connections are closed. -/
def discard (p : Pool κ) : Pool κ :=
  let (drained, p) := p.drain
  p.performAll (drained.map (.close · "connection pool dropped"))

end

end Pool

end RpcTransport
