import RpcTransport.Bytes

/-!
# Bodies and their accounting

Bodies that arrive are counted from the moment they are adopted until they are released, once each;
bodies built here are not. An `Arena` is the count, and a `Body` says whether it belongs to it.
-/

namespace RpcTransport

structure Body where
  octets : Bytes
  /-- Counted in the arena it was adopted in. -/
  tracked : Bool
deriving DecidableEq, Repr

namespace Body

/-- A body that is not counted. -/
def detached (octets : Bytes) : Body := ⟨octets, false⟩

def empty : Body := detached []

instance : Inhabited Body := ⟨empty⟩

def debugText (b : Body) : String :=
  s!"Body \x7b len: {b.octets.length}, tracked: {b.tracked} \x7d"

end Body

structure Arena where
  live : Nat
  adopted : Nat
  released : Nat
deriving DecidableEq, Repr

namespace Arena

def empty : Arena := ⟨0, 0, 0⟩

instance : Inhabited Arena := ⟨empty⟩

/-- Count one more body. -/
def adoptOne (a : Arena) : Arena := { a with live := a.live + 1, adopted := a.adopted + 1 }

def adopt (a : Arena) (octets : Bytes) : Body × Arena := (⟨octets, true⟩, a.adoptOne)

/-- A second handle on the octets of a body, released on its own. -/
def retain (a : Arena) (b : Body) : Body × Arena := (b, if b.tracked then a.adoptOne else a)

/-- The end of a body's use. -/
def release (a : Arena) (b : Body) : Arena :=
  if b.tracked then { a with live := a.live - 1, released := a.released + 1 } else a

end Arena

end RpcTransport
