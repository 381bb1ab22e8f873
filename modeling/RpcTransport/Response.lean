import RpcTransport.CallResult
import RpcTransport.Error

/-!
# Responses

What a response frame means: a result if its status is ok and its body can be read, and otherwise an
error. Of a failure the body is a text. A response may also be handed on undecoded, and then the
caller decodes it, with the same outcome.
-/

namespace RpcTransport

structure Response where
  id : UInt64
  result : CallResult

structure RawResponse where
  id : UInt64
  status : Status
  serialization : UInt8
  body : Body
deriving DecidableEq, Repr

/-- The text in the body of a failure. -/
def failureText (registry : Registry) (serialization : UInt8) (body : Bytes) : String :=
  match registry.get serialization with
  | .error _ => s!"undecodable error body (serialization {serialization.toNat})"
  | .ok b =>
    match (b.format.readText.runOn body).1 with
    | .ok s => s
    | .error e => s!"undecodable error body: {e.message}"

/-- The result in a body, or the error its status names. -/
def decodeResult (registry : Registry) (status : Status) (serialization : UInt8) (body : Bytes) :
    Except TransportError CallResult :=
  match status with
  | .ok => (CallResult.ofBody registry serialization body).mapError .ofSerialization
  | .unknown b => .error (.unknownResponseStatus b "unrecognised status byte")
  | status => .error (.remote status (failureText registry serialization body))

namespace RawResponse

def ofFrame (f : Frame) : RawResponse := ⟨f.id, f.status, f.serialization, f.body⟩

def decode (r : RawResponse) (registry : Registry) : Except TransportError Response :=
  (decodeResult registry r.status r.serialization r.body.octets).map fun result ↦ ⟨r.id, result⟩

end RawResponse

end RpcTransport
