import RpcTransport.Arena
import RpcTransport.Status

/-!
# Frames

A frame is a header and a body. Its kind follows from four flags: requests expect an answer, one-way
requests and events do not, and a heartbeat is an event whose body is null. The constructors set the
flags of one kind and keep the five bits of a serialization id that fit the header.
-/

namespace RpcTransport

structure Frame where
  id : UInt64
  isRequest : Bool
  twoWay : Bool
  isEvent : Bool
  isHeartbeat : Bool
  serialization : UInt8
  status : Status
  body : Body
  /-- It came in over the wire, so its transfer was timed. -/
  timed : Bool
deriving DecidableEq, Repr

namespace Frame

/-- A response that went well; the other constructors change its flags. -/
def plain (id : UInt64) (serialization : UInt8) (body : Body) : Frame where
  id := id
  isRequest := false
  twoWay := false
  isEvent := false
  isHeartbeat := false
  serialization := serialization &&& 0x1f
  status := .ok
  body := body
  timed := false

instance : Inhabited Frame := ⟨plain 0 0 default⟩

def request (id : UInt64) (serialization : UInt8) (body : Body) : Frame :=
  { plain id serialization body with isRequest := true, twoWay := true }

def oneway (id : UInt64) (serialization : UInt8) (body : Body) : Frame :=
  { plain id serialization body with isRequest := true }

def event (id : UInt64) (serialization : UInt8) (body : Body) : Frame :=
  { plain id serialization body with isRequest := true, isEvent := true }

def heartbeatRequest (id : UInt64) (serialization : UInt8) (null : Body) : Frame :=
  { plain id serialization null with
    isRequest := true, twoWay := true, isEvent := true, isHeartbeat := true }

def heartbeatResponse (id : UInt64) (serialization : UInt8) (null : Body) : Frame :=
  { plain id serialization null with isEvent := true, isHeartbeat := true }

def response (id : UInt64) (serialization : UInt8) (status : Status) (body : Body) : Frame :=
  { plain id serialization body with status := status }

/-- The flags octet: the serialization id, of which the high bits are lost, and three flags. -/
def flags (f : Frame) : UInt8 :=
  (f.serialization <<< 3) ||| (if f.isRequest then 1 else 0) ||| (if f.twoWay then 2 else 0) |||
    (if f.isEvent then 4 else 0)

def kindName (f : Frame) : String :=
  match f.isRequest, f.isHeartbeat, f.isEvent, f.twoWay with
  | true, true, _, _ => "heartbeat-request"
  | false, true, _, _ => "heartbeat-response"
  | true, false, true, _ => "event"
  | true, false, false, true => "request"
  | true, false, false, false => "oneway"
  | false, false, _, _ => "response"

end Frame

end RpcTransport
