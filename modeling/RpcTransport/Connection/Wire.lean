import RpcTransport.Closable
import RpcTransport.Connection.Link

/-!
# Two links on one wire

Each end of a wire is a link whose peer is the other end: what one writes is there for the other to
read, as far as it fits, and an end that lets go of the wire is seen by the other.
-/

namespace RpcTransport

instance : Closable Link where
  isClosed l := l.connection.closed
  close reason l := { l with connection := l.connection.close reason }

namespace Link

/-- Octets that one end has written and the other has room for; the mark of the end after the last
of them; and the other's word that it no longer reads. -/
def carry (writer reader : Link) : Link × Link :=
  let octets := writer.outbound.buffer.take reader.inbound.room
  let rest := writer.outbound.buffer.drop reader.inbound.room
  let ended := writer.outbound.writerGone && rest.isEmpty
  ({ writer with outbound := { writer.outbound with
      buffer := rest
      readerGone := writer.outbound.readerGone || reader.isReleased } },
    { reader with inbound := { reader.inbound with
      buffer := reader.inbound.buffer ++ octets
      writerGone := reader.inbound.writerGone || ended } })

/-- Carry in both directions, if that changes anything. -/
def exchange? (a b : Link) : Option (Link × Link) :=
  let (a', b') := a.carry b
  let (b', a') := b'.carry a'
  if a'.outbound = a.outbound ∧ a'.inbound = a.inbound ∧ b'.outbound = b.outbound ∧
      b'.inbound = b.inbound then none
  else some (a', b')

end Link

end RpcTransport
