import RpcTransport.Frame.Codec

/-!
# A reader and a writer over one arena

One reader with its buffer, the octets written so far, and the bodies of decoded frames that are
still held. Reading a frame adopts its body; writing a frame releases its body, also when the frame
is refused. A held body is released once: its place stays in the list, empty.
-/

namespace RpcTransport

structure CodecSession where
  reader : FrameReader
  output : Bytes
  arena : Arena
  /-- One place for each decoded frame; empty if its body was released. -/
  held : List (Option Body)
deriving DecidableEq, Repr

namespace CodecSession

def ofLimit (limit : Nat) : CodecSession := ⟨.ofLimit limit, [], .empty, []⟩

def feed (s : CodecSession) (octets : Bytes) : CodecSession :=
  { s with reader := s.reader.feed octets }

def clear (s : CodecSession) : CodecSession := { s with reader := s.reader.clear }

/-- Move what was written to the end of what is to be read. -/
def loop (s : CodecSession) : CodecSession :=
  { s with reader := s.reader.feed s.output, output := [] }

/-- Take in the outcome of a decoding step: a new body is adopted, and held or released at once. -/
def receive (s : CodecSession) (hold : Bool)
    (outcome : Except CodecError (Option Frame) × FrameReader) :
    Except CodecError (Option Frame) × CodecSession :=
  let s := { s with reader := outcome.2 }
  match outcome.1 with
  | .ok (some f) =>
    let arena := s.arena.adoptOne
    if hold then (outcome.1, { s with arena := arena, held := s.held ++ [some f.body] })
    else (outcome.1, { s with arena := arena.release f.body, held := s.held ++ [none] })
  | _ => (outcome.1, s)

def decode (s : CodecSession) (registry : Registry) (hold : Bool) :
    Except CodecError (Option Frame) × CodecSession :=
  s.receive hold (s.reader.decode registry)

def decodeLast (s : CodecSession) (registry : Registry) (hold : Bool) :
    Except CodecError (Option Frame) × CodecSession :=
  s.receive hold (s.reader.decodeLast registry)

/-- Write a frame, whose body is used up. -/
def encode (s : CodecSession) (f : Frame) : Except CodecError Unit × CodecSession :=
  let s := { s with arena := s.arena.release f.body }
  match f.encode s.reader.limit with
  | .ok octets => (.ok (), { s with output := s.output ++ octets })
  | .error e => (.error e, s)

/-- Release a held body, if it is still there. -/
def release (s : CodecSession) (index : Nat) : Option Body × CodecSession :=
  match s.held[index]? with
  | some (some b) =>
    (some b, { s with arena := s.arena.release b, held := s.held.set index none })
  | _ => (none, s)

end CodecSession

/-! ## Handles -/

/-- Bodies kept by index, one place for each handle that was made. -/
structure BodySession where
  arena : Arena
  handles : List (Option Body)
deriving DecidableEq, Repr

namespace BodySession

def empty : BodySession := ⟨.empty, []⟩

def get? (s : BodySession) (index : Nat) : Option Body := (s.handles[index]?).join

def push (s : BodySession) (made : Body × Arena) : BodySession :=
  ⟨made.2, s.handles ++ [some made.1]⟩

def adopt (s : BodySession) (octets : Bytes) : BodySession := s.push (s.arena.adopt octets)

def addDetached (s : BodySession) (octets : Bytes) : BodySession :=
  s.push (.detached octets, s.arena)

/-- A second handle on a body that is still there. -/
def retain (s : BodySession) (index : Nat) : BodySession :=
  match s.get? index with
  | some b => s.push (s.arena.retain b)
  | none => s

/-- Take a handle back, its body being released. -/
def release (s : BodySession) (index : Nat) : BodySession :=
  match s.get? index with
  | some b => ⟨s.arena.release b, s.handles.set index none⟩
  | none => s

end BodySession

end RpcTransport
