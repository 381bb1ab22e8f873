/-!
# Serialization errors

The end of a body is told apart from malformed input and from a well-formed value of another type,
because callers treat them differently: the first means "no more values", the last leaves the reader
usable.
-/

namespace RpcTransport

inductive SerializationError where
  | endOfStream
  | typeMismatch (detail : String)
  | encode (detail : String)
  | decode (detail : String)
  /-- No backend is registered under the id. -/
  | unknown (id : UInt8)
  /-- The id needs more than the five bits the header has for it. -/
  | invalidId (id : UInt8)
  | duplicate (id : UInt8)
deriving DecidableEq, Repr

def SerializationError.message : SerializationError → String
  | .endOfStream => "end of stream"
  | .typeMismatch detail => "type mismatch: " ++ detail
  | .encode detail => "encode failed: " ++ detail
  | .decode detail => "decode failed: " ++ detail
  | .unknown id => s!"no serialization registered for id {id.toNat}"
  | .invalidId id => s!"serialization id {id.toNat} does not fit in the header"
  | .duplicate id => s!"serialization id {id.toNat} is already registered"

/-- The error value carried in a result body. -/
structure RemoteError where
  kind : String
  message : String
deriving DecidableEq, Repr

/-- The fields of an error that a reader has found so far. -/
structure ErrorFields where
  kind : Option String
  message : Option String

def ErrorFields.none : ErrorFields := ⟨Option.none, Option.none⟩

/-- The error, once both fields are known, or what is amiss. -/
def ErrorFields.complete (fields : ErrorFields) : Except String RemoteError :=
  match fields.kind, fields.message with
  | .none, _ => .error "missing field `kind`"
  | .some _, .none => .error "missing field `message`"
  | .some kind, .some message => .ok ⟨kind, message⟩

end RpcTransport
