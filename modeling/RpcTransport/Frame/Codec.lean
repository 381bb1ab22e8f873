import RpcTransport.Frame
import RpcTransport.Serialization.Registry

/-!
# Frames on the wire

A header of sixteen octets: the magic `da bb`, the flags, the status, the id in eight octets and the
length of the body in four; then the body. Requests have no status, and zero stands in its place.

A `FrameReader` is fed octets as they come and gives out whole frames. It looks at the magic as soon
as it has an octet of it and at the length as soon as it has the header, so a foreign or oversized
stream is refused before its body is awaited; a refusal takes nothing. Once a header was seen, the
size of its frame is remembered: emptying the buffer does not change how many octets the next frame
takes.
-/

namespace RpcTransport

inductive CodecError where
  /-- The stream does not start with the magic; a missing second octet is shown as zero. -/
  | unknownProtocol (first second : UInt8)
  | payloadTooLarge (size limit : Nat)
  | io (reason : String)
deriving DecidableEq, Repr

namespace CodecError

def message : CodecError → String
  | .unknownProtocol first second =>
    "unknown protocol: expected magic dabb, found [" ++ Bytes.hex [first] ++ ", " ++
      Bytes.hex [second] ++ "]"
  | .payloadTooLarge size limit =>
    s!"frame body of {size} bytes exceeds payload limit of {limit} bytes"
  | .io reason => reason

/-- The stream ended inside a frame. -/
def truncated : CodecError := .io "bytes remaining on stream"

end CodecError

namespace Frame

def magic : Bytes := [0xda, 0xbb]

def headerSize : Nat := 16

/-- The largest size that four octets can tell. -/
def maxPayload : Nat := 0x100000000 - 1

def defaultLimit : Nat := 8 * 1024 * 1024

/-- A limit no larger than what the length field can tell. -/
def clampLimit (limit : Nat) : Nat := min limit maxPayload

/-! ## Writing -/

def header (f : Frame) : Bytes :=
  magic ++ [f.flags, if f.isRequest then 0 else f.status.toOctet] ++
    Bytes.bigEndian 8 f.id.toNat ++ Bytes.bigEndian 4 f.body.octets.length

/-- The octets of a frame, unless its body is over the limit. -/
def encode (limit : Nat) (f : Frame) : Except CodecError Bytes :=
  let size := f.body.octets.length
  if clampLimit limit < size then .error (.payloadTooLarge size (clampLimit limit))
  else .ok (f.header ++ f.body.octets)

/-! ## Reading -/

/-- The frame of a header and a body. An event is a heartbeat if its body is empty or null. -/
def ofParts (registry : Registry) (flags status : UInt8) (id : Nat) (octets : Bytes) : Frame :=
  let isRequest := flags &&& 1 ≠ 0
  let isEvent := flags &&& 4 ≠ 0
  let serialization := (flags >>> 3) &&& 0x1f
  { id := UInt64.ofNat id
    isRequest := isRequest
    twoWay := flags &&& 2 ≠ 0
    isEvent := isEvent
    isHeartbeat := isEvent && (octets.isEmpty || registry.isNull serialization octets)
    serialization := serialization
    status := if isRequest then .ok else .ofOctet status
    body := ⟨octets, true⟩
    timed := true }

/-- The frame in a run of octets that holds one. -/
def ofOctets (registry : Registry) (octets : Bytes) : Frame :=
  let flags := (octets.drop 2).headD 0
  let status := (octets.drop 3).headD 0
  ofParts registry flags status (Bytes.ofBigEndian ((octets.drop 4).take 8))
    (octets.drop headerSize)

/-- The length of the body, from a buffer that has a whole header. -/
def announcedSize (buffer : Bytes) : Nat := Bytes.ofBigEndian ((buffer.drop 12).take 4)

/-- What the start of a buffer shows to be wrong. -/
def checkHeader (limit : Nat) (buffer : Bytes) : Except CodecError Unit :=
  let start := buffer.take 2
  if start ≠ magic.take start.length then
    .error (.unknownProtocol (start.headD 0) (start.tail.headD 0))
  else if headerSize ≤ (buffer.take headerSize).length ∧ limit < announcedSize buffer then
    .error (.payloadTooLarge (announcedSize buffer) limit)
  else .ok ()

end Frame

structure FrameReader where
  limit : Nat
  /-- The size of the frame whose header was seen, header included. -/
  awaited : Option Nat
  buffer : Bytes
deriving DecidableEq, Repr

namespace FrameReader

def ofLimit (limit : Nat) : FrameReader := ⟨Frame.clampLimit limit, none, []⟩

def feed (r : FrameReader) (octets : Bytes) : FrameReader := { r with buffer := r.buffer ++ octets }

/-- Empty the buffer. -/
def clear (r : FrameReader) : FrameReader := { r with buffer := [] }

/-- The size of the next frame, if it is known. -/
def frameSize? (r : FrameReader) : Option Nat :=
  match r.awaited with
  | some n => some n
  | none =>
    if (r.buffer.take Frame.headerSize).length = Frame.headerSize then
      some (Frame.headerSize + Frame.announcedSize r.buffer)
    else none

/-- The next frame, if the buffer holds one. -/
def decode (registry : Registry) (r : FrameReader) :
    Except CodecError (Option Frame) × FrameReader :=
  if r.buffer.isEmpty then (.ok none, r)
  else
    match Frame.checkHeader r.limit r.buffer with
    | .error e => (.error e, r)
    | .ok () =>
      match r.frameSize? with
      | none => (.ok none, r)
      | some n =>
        match Bytes.splitAt? n r.buffer with
        | none => (.ok none, { r with awaited := some n })
        | some (octets, rest) =>
          (.ok (some (Frame.ofOctets registry octets)), { r with awaited := none, buffer := rest })

/-- The next frame of a stream that has ended; an incomplete one is an error. -/
def decodeLast (registry : Registry) (r : FrameReader) :
    Except CodecError (Option Frame) × FrameReader :=
  match r.decode registry with
  | (.ok none, r) => (if r.buffer.isEmpty then .ok none else .error .truncated, r)
  | outcome => outcome

end FrameReader

end RpcTransport
