import RpcTransport.Serialization.Item

/-!
# Backends by wire id

A frame names the backend of its body by an id of five bits. `Registry` holds one backend per id,
and the encoded nulls that were asked for: a heartbeat carries the null of its backend, so both ends
have to agree on it, and a remembered null is the one its backend writes.
-/

namespace RpcTransport

structure Backend where
  id : UInt8
  name : String
  contentType : String
  format : Format
deriving DecidableEq, Repr

namespace Backend

def json : Backend := ⟨6, "json", "text/json", .json⟩

def messagePack : Backend := ⟨2, "msgpack", "application/msgpack", .messagePack⟩

/-- The encoded null. -/
def null (b : Backend) : Bytes := b.format.writeValue .null

end Backend

structure Registry where
  backends : List Backend
  /-- The encoded nulls that were asked for, by id. -/
  nulls : List (UInt8 × Bytes)
deriving DecidableEq, Repr

namespace Registry

/-- The largest id that fits the header. -/
def maxId : UInt8 := 0x1f

def empty : Registry := ⟨[], []⟩

def standard : Registry := ⟨[.messagePack, .json], []⟩

def find? (r : Registry) (id : UInt8) : Option Backend := r.backends.find? (·.id = id)

def contains (r : Registry) (id : UInt8) : Bool := (r.find? id).isSome

/-- Add a backend under an id that fits and is free. -/
def register (r : Registry) (b : Backend) : Except SerializationError Registry :=
  if maxId < b.id then .error (.invalidId b.id)
  else if r.contains b.id then .error (.duplicate b.id)
  else .ok { r with backends := r.backends ++ [b] }

def get (r : Registry) (id : UInt8) : Except SerializationError Backend :=
  match r.find? id with
  | some b => .ok b
  | none => .error (.unknown id)

/-- A body, written by a backend's format. -/
def encode (r : Registry) (id : UInt8) (write : Format → Bytes) : Except SerializationError Bytes :=
  (r.get id).map fun b ↦ write b.format

/-- The encoded null of a backend, remembered or written and then remembered. -/
def null (r : Registry) (id : UInt8) : Except SerializationError (Bytes × Registry) :=
  match r.nulls.lookup id with
  | some bs => .ok (bs, r)
  | none =>
    (r.encode id fun f ↦ f.writeValue .null).map fun bs ↦
      (bs, { r with nulls := r.nulls ++ [(id, bs)] })

/-- The encoded null of a backend, by what is remembered now. -/
def nullOctets (r : Registry) (id : UInt8) : Except SerializationError Bytes :=
  (r.null id).map Prod.fst

/-- Whether a body is exactly the encoded null of a backend. No body is, if there is no backend. -/
def isNull (r : Registry) (id : UInt8) (body : Bytes) : Bool :=
  match r.nullOctets id with
  | .ok bs => bs == body
  | .error _ => false

/-- The registry after a null was asked for. -/
def remember (r : Registry) (id : UInt8) : Registry :=
  match r.null id with
  | .ok (_, r) => r
  | .error _ => r

/-- The ids in ascending order. -/
def ids (r : Registry) : List UInt8 := (r.backends.map (·.id)).mergeSort (· ≤ ·)

def debugText (r : Registry) : String :=
  let listed := ", ".intercalate (r.ids.map fun id ↦ toString id.toNat)
  "SerializationRegistry \x7b ids: [" ++ listed ++ "] \x7d"

end Registry

end RpcTransport
