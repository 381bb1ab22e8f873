import RpcTransport.Error
import RpcTransport.Text.Numeral

/-!
# Endpoints

Where to connect: `unix:` and a path, or a host and a port, before which `tcp://` may stand. The
host is all that comes before the last colon, and the address is kept as it was written.
-/

namespace RpcTransport

inductive Endpoint where
  | tcp (address : String)
  | unix (path : String)
deriving DecidableEq, Repr

namespace Endpoint

def unixScheme : List Char := "unix:".toList

def tcpScheme : List Char := "tcp://".toList

/-- The text after a scheme, if it starts with it. -/
def strip? (scheme cs : List Char) : Option (List Char) :=
  if scheme.isPrefixOf cs then some (cs.drop scheme.length) else none

/-- What stands before and after the last occurrence of a character. -/
def splitLast? (c : Char) (cs : List Char) : Option (List Char × List Char) :=
  let after := (cs.reverse.takeWhile (· ≠ c)).reverse
  let before := cs.take (cs.length - after.length)
  match before.reverse with
  | [] => none
  | _ :: front => some (front.reverse, after)

/-- A nonempty host, a colon and a port. -/
def isAddress (cs : List Char) : Bool :=
  match splitLast? ':' cs with
  | some (host, port) => !host.isEmpty && (Numeral.value? 65535 port).isSome
  | none => false

def parse (s : String) : Except TransportError Endpoint :=
  match strip? unixScheme s.toList with
  | some [] => .error (.connectFailed s "empty unix socket path")
  | some path => .ok (.unix (String.ofList path))
  | none =>
    let address := (strip? tcpScheme s.toList).getD s.toList
    if isAddress address then .ok (.tcp (String.ofList address))
    else .error (.connectFailed s "expected host:port")

def display : Endpoint → String
  | .tcp address => address
  | .unix path => "unix:" ++ path

end Endpoint

end RpcTransport
