import RpcTransport.Frame.Codec

/-!
# Failures of calls

Every failure a caller can see is a `TransportError`; failures of the lower layers become one where
a request is resolved. What a handler reports is a `HandlerError`, which crosses as a status and a
text.
-/

namespace RpcTransport

inductive TransportError where
  /-- A connection could not be made, or a request could not be written. -/
  | connectFailed (endpoint reason : String)
  /-- The request did not reach the transport before its deadline. -/
  | requestTimeout (connection : String) (id : UInt64) (millis : Nat)
  /-- The request was written, but no response came before its deadline. -/
  | responseTimeout (connection : String) (id : UInt64) (millis : Nat)
  /-- The connection went away while the request was outstanding. -/
  | channelInactive (connection reason : String)
  | serializationFailed (reason : String)
  /-- The peer speaks another protocol. -/
  | unknownProtocol (reason : String)
  /-- A response of no known status, or one that could not be taken in. -/
  | unknownResponseStatus (status : UInt8) (message : String)
  /-- The peer answered with a status of failure. -/
  | remote (status : Status) (message : String)
  | poolExhausted (size : Nat)
  | poolClosed
  | internal (reason : String)
deriving DecidableEq, Repr

namespace TransportError

def message : TransportError → String
  | .connectFailed endpoint reason => s!"connect to {endpoint} failed: {reason}"
  | .requestTimeout connection id millis =>
    s!"request {id.toNat} on {connection} not sent within {millis}ms"
  | .responseTimeout connection id millis =>
    s!"no response for request {id.toNat} on {connection} within {millis}ms"
  | .channelInactive connection reason => s!"connection {connection} inactive: {reason}"
  | .serializationFailed reason => s!"serialization failed: {reason}"
  | .unknownProtocol reason => s!"unknown protocol: {reason}"
  | .unknownResponseStatus status message =>
    s!"unknown response status {status.toNat}: {message}"
  | .remote status message => s!"remote returned {status.name}: {message}"
  | .poolExhausted size => s!"connection pool exhausted ({size} connections in use)"
  | .poolClosed => "connection pool closed"
  | .internal reason => s!"internal error: {reason}"

/-- Timeouts are the failures after which the same connection may be tried again. -/
def isTimeout : TransportError → Bool
  | .requestTimeout .. | .responseTimeout .. => true
  | _ => false

def ofSerialization (e : SerializationError) : TransportError := .serializationFailed e.message

/-- A failure of the operating system, by its text. -/
def ofSystem (reason : String) : TransportError := .internal s!"I/O error: {reason}"

/-- What the requests of a connection are resolved with when its stream cannot be read on. -/
def ofCodec (connection : String) : CodecError → TransportError
  | .io reason => .channelInactive connection s!"transport error: {reason}"
  | .payloadTooLarge size limit =>
    .unknownResponseStatus Status.badResponse.toOctet
      (CodecError.payloadTooLarge size limit).message
  | .unknownProtocol first second =>
    .unknownProtocol (CodecError.unknownProtocol first second).message

end TransportError

structure HandlerError where
  status : Status
  message : String
deriving DecidableEq, Repr

namespace HandlerError

def server (message : String) : HandlerError := ⟨.serverError, message⟩

def badRequest (message : String) : HandlerError := ⟨.badRequest, message⟩

/-- An argument that cannot be read is the caller's fault. -/
def ofSerialization (e : SerializationError) : HandlerError := badRequest e.message

def display (e : HandlerError) : String := s!"{e.status.name}: {e.message}"

end HandlerError

end RpcTransport
