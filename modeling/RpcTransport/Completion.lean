import RpcTransport.Response

/-!
# Completions

A caller waits for the outcome of a request in one of three ways: for the decoded response, for the
raw one, or through a listener. A completion names the caller by a ticket and is used up by the one
`Delivery` made from it. A waiting caller notices when a completion is thrown away; a listener does
not.
-/

namespace RpcTransport

inductive CompletionKind where
  | decoded
  | raw
  | listener
deriving DecidableEq, Repr

def CompletionKind.name : CompletionKind → String
  | .decoded => "Decoded"
  | .raw => "Raw"
  | .listener => "Listener"

structure Completion where
  kind : CompletionKind
  ticket : Nat
deriving DecidableEq, Repr

/-- What a caller is told. -/
inductive Resolution where
  | response (r : Response)
  | raw (r : RawResponse)
  | failed (e : TransportError)
  | dropped

structure Delivery where
  ticket : Nat
  resolution : Resolution

namespace Completion

def fail (c : Completion) (e : TransportError) : Delivery := ⟨c.ticket, .failed e⟩

/-- A caller who waits for a raw response cannot be told a decoded one. -/
def succeed (c : Completion) (r : Response) : Delivery :=
  match c.kind with
  | .raw => c.fail (.internal "raw completion handed a decoded response")
  | _ => ⟨c.ticket, .response r⟩

/-- Decode a response frame and tell the caller. -/
def decode (c : Completion) (registry : Registry) (f : Frame) : Delivery :=
  match decodeResult registry f.status f.serialization f.body.octets with
  | .ok result => c.succeed ⟨f.id, result⟩
  | .error e => c.fail e

/-- Hand a response frame on as it is. -/
def handOver (c : Completion) (f : Frame) : Delivery := ⟨c.ticket, .raw (.ofFrame f)⟩

/-- Throw a completion away unused. -/
def discard (c : Completion) : Option Delivery :=
  match c.kind with
  | .listener => none
  | _ => some ⟨c.ticket, .dropped⟩

end Completion

end RpcTransport
