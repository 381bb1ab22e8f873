import RpcTransport.Connection

/-!
# Things that can be closed

A pool and a server hold connections, and all they do with them is to close them and to ask whether
they are closed. Both leave open what exactly a connection is.
-/

namespace RpcTransport

class Closable (κ : Type) where
  isClosed : κ → Bool
  /-- Close for a reason. -/
  close : String → κ → κ

instance : Closable Connection where
  isClosed c := c.closed
  close reason c := c.close reason

end RpcTransport
