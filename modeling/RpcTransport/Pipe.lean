import RpcTransport.Bytes

/-!
# Bounded pipes

One direction of a byte stream: what was written and not yet read, at most `capacity` octets. A
writer that is gone leaves what it wrote; a reader that is gone refuses everything.
-/

namespace RpcTransport

structure Pipe where
  capacity : Nat
  buffer : Bytes
  writerGone : Bool
  readerGone : Bool
deriving DecidableEq, Repr

namespace Pipe

def empty (capacity : Nat) : Pipe := ⟨capacity, [], false, false⟩

/-- How many octets fit now. -/
def room (p : Pipe) : Nat := p.capacity - p.buffer.length

/-- Write as much as fits: what is left to write, and the pipe. -/
def write (p : Pipe) (octets : Bytes) : Bytes × Pipe :=
  (octets.drop p.room, { p with buffer := p.buffer ++ octets.take p.room })

/-- Read everything. -/
def readAll (p : Pipe) : Bytes × Pipe := (p.buffer, { p with buffer := [] })

/-- Nothing is left, and nothing will come. -/
def atEnd (p : Pipe) : Bool := p.writerGone && p.buffer.isEmpty

end Pipe

end RpcTransport
