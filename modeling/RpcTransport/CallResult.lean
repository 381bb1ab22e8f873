import RpcTransport.Serialization.Registry

/-!
# Results of calls

The body of a successful answer: a tag, then the value or the error the tag announces, then a map of
attachments if there are any. The tag is 0 for an error, 1 for a value and 2 for null, and 3 more
when attachments follow.
-/

namespace RpcTransport

inductive Outcome where
  | value (v : Value)
  | null
  | error (e : RemoteError)

structure CallResult where
  outcome : Outcome
  attachments : TextMap

namespace CallResult

/-- A result without attachments. -/
def ofOutcome (o : Outcome) : CallResult := ⟨o, .empty⟩

/-- A null value is the null result. -/
def ofValue (v : Value) : CallResult := ofOutcome (if v.isNull then .null else .value v)

def null : CallResult := ofOutcome .null

def ofError (e : RemoteError) : CallResult := ofOutcome (.error e)

def attach (r : CallResult) (key text : String) : CallResult :=
  { r with attachments := r.attachments.insert key text }

def isError (r : CallResult) : Bool :=
  match r.outcome with
  | .error _ => true
  | _ => false

/-- The value, null for the null result, or the error. -/
def toExcept (r : CallResult) : Except RemoteError Value :=
  match r.outcome with
  | .value v => .ok v
  | .null => .ok .null
  | .error e => .error e

/-! ## Tags -/

def attachmentsTag : UInt8 := 3

def Outcome.tag : Outcome → UInt8
  | .error _ => 0
  | .value _ => 1
  | .null => 2

def tag (r : CallResult) : UInt8 :=
  Outcome.tag r.outcome + if r.attachments.isEmpty then 0 else attachmentsTag

/-! ## Bodies -/

def writeOutcome (f : Format) : Outcome → Bytes
  | .value v => f.writeValue v
  | .error e => f.writeError e
  | .null => []

def write (r : CallResult) (f : Format) : Bytes :=
  f.writeOctet r.tag ++ writeOutcome f r.outcome ++
    if r.attachments.isEmpty then [] else f.writeEntries r.attachments.entries

def readOutcome (f : Format) (tag : UInt8) : Reader Outcome :=
  if tag % attachmentsTag = 0 then Outcome.error <$> f.readError
  else if tag % attachmentsTag = 1 then Outcome.value <$> f.readValue
  else return .null

def read (f : Format) : Reader CallResult := do
  let tag ← f.readOctet
  if 2 * attachmentsTag ≤ tag then throw (.decode s!"unknown result kind {tag.toNat}")
  let outcome ← readOutcome f tag
  let attachments ← if attachmentsTag ≤ tag then f.readMap else pure .empty
  return ⟨outcome, attachments⟩

/-- The whole body of an answer. -/
def toBody (r : CallResult) (registry : Registry) (id : UInt8) : Except SerializationError Bytes :=
  registry.encode id r.write

/-- What a body holds after the result is not looked at. -/
def ofBody (registry : Registry) (id : UInt8) (body : Bytes) :
    Except SerializationError CallResult := do
  let b ← registry.get id
  ((read b.format).runOn body).1

end CallResult

end RpcTransport
