import RpcTransport.Arena
import RpcTransport.CallResult
import RpcTransport.Error

/-!
# Handlers

What a handler is given and what it answers with. `ScriptedHandler` is a handler that does what its
argument says: an object may ask for a delay and then for a failure, the name of the connection, an
error, null or a reply, in this order; any other argument is returned as it is.
-/

namespace RpcTransport

/-- An inbound request, as a handler sees it. -/
structure InboundRequest where
  id : UInt64
  serialization : UInt8
  isEvent : Bool
  twoWay : Bool
  /-- The name of the connection it came in on. -/
  connection : String
  body : Body
deriving DecidableEq, Repr

abbrev HandlerOutcome := Except HandlerError CallResult

/-- What a handler does: answer after some milliseconds. -/
structure HandlerPlan where
  delay : Nat
  outcome : HandlerOutcome

/-- What answers requests. -/
abbrev Handler := InboundRequest → HandlerPlan

namespace ScriptedHandler

def textMember? (key : String) (v : Value) : Option String := (v.member? key).bind Value.text?

/-- A member that is a whole number and not negative. -/
def natMember? (key : String) (v : Value) : Option Nat :=
  ((v.member? key).bind Value.whole?).bind Int.toNat?

/-- The status of a scripted failure. -/
def failureStatus (v : Value) : Status :=
  match natMember? "status" v with
  | some n => .ofOctet (UInt8.ofNat n)
  | none => .serverError

def withAttachment (v : Value) (r : CallResult) : CallResult :=
  match textMember? "attach" v with
  | some text => r.attach "k" text
  | none => r

def outcome (connection : String) (v : Value) : HandlerOutcome :=
  match textMember? "fail" v with
  | some text => .error ⟨failureStatus v, text⟩
  | none =>
    if (v.member? "whoami").isSome then .ok (.ofValue (.string connection))
    else
      match textMember? "error" v with
      | some kind => .ok (withAttachment v (.ofError ⟨kind, "scripted"⟩))
      | none =>
        if (v.member? "null").isSome then .ok (withAttachment v .null)
        else .ok (withAttachment v (.ofValue ((v.member? "reply").getD v)))

/-- How long an argument asks to wait. -/
def delay (v : Value) : Nat := (natMember? "delay_ms" v).getD 0

/-- Read the argument with the backend of the request, and do what it says. -/
def plan (registry : Registry) : Handler := fun r ↦
  let argument := (registry.get r.serialization).bind fun b ↦
    (b.format.readValue.runOn r.body.octets).1
  match argument with
  | .error e => ⟨0, .error (.ofSerialization e)⟩
  | .ok v => ⟨delay v, outcome r.connection v⟩

end ScriptedHandler

end RpcTransport
