import RpcTransport.Endpoint

/-!
# Reaching an endpoint

There is no network: a connection can be made to a unix socket on which a server listens, and to
nothing else. Such a connection is made at once, so there is always time for it.
-/

namespace RpcTransport.Network

/-- Why an endpoint cannot be reached, if it cannot. -/
def fault? (e : Endpoint) (listening : Bool) : Option String :=
  match e, listening with
  | .tcp _, _ => some "Network is unreachable (os error 101)"
  | .unix _, false => some "No such file or directory (os error 2)"
  | .unix _, true => none

end RpcTransport.Network
