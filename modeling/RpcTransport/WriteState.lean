/-!
# How far a request got

The phase of a request's write and the reason if it failed. The two are set in separate steps, the
reason first, so whoever sees the phase `writeFailed` finds a reason. The first reason stays, a
failure is never left, and a write is noted only while it is awaited.
-/

namespace RpcTransport

inductive WritePhase where
  | awaiting
  | written
  | failed
deriving DecidableEq, Repr

def WritePhase.name : WritePhase → String
  | .awaiting => "AwaitingWrite"
  | .written => "Written"
  | .failed => "WriteFailed"

structure WriteState where
  phase : WritePhase
  reason : Option String
deriving DecidableEq, Repr

namespace WriteState

def initial : WriteState := ⟨.awaiting, none⟩

instance : Inhabited WriteState := ⟨initial⟩

/-- Note that the request was written. -/
def markWritten (w : WriteState) : WriteState :=
  if w.phase = .awaiting then { w with phase := .written } else w

/-- Set the reason of a failure, unless there is one. -/
def noteReason (w : WriteState) (reason : String) : WriteState :=
  { w with reason := some (w.reason.getD reason) }

def enterFailed (w : WriteState) : WriteState := { w with phase := .failed }

/-- Note that the write failed. -/
def markFailed (w : WriteState) (reason : String) : WriteState := (w.noteReason reason).enterFailed

end WriteState

end RpcTransport
