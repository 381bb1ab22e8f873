import RpcTransport.Clock
import RpcTransport.TimingWheel.Agenda

/-!
# The timing wheel

One wheel holds the deadlines of all connections. Callers send it commands; it takes them in order,
before it looks at the deadlines that are due. A deadline has a token, by which it is cancelled, and
a key, by which it stands in the agenda of due times: the armed tokens and the keys in the agenda
are kept side by side.

A deadline fires for a target and an id. The target may be gone by then, and then nothing happens.

A deadline that is out of reach of the agenda breaks the wheel: from then on nothing fires, and
nobody is told. As delays are clamped to a year, this takes an agenda that has been turned for the
last time more than a year ago.
-/

namespace RpcTransport

namespace TimingWheel

inductive Command (τ : Type) where
  | schedule (token : Nat) (target : τ) (id : UInt64) (delay : Nat)
  | cancel (token : Nat)

structure Armed (τ : Type) where
  token : Nat
  key : Nat
  target : τ
  id : UInt64

end TimingWheel

structure TimingWheel (τ : Type) where
  now : Nat
  nextToken : Nat
  nextKey : Nat
  /-- Sent and not yet taken. -/
  commands : List (TimingWheel.Command τ)
  armed : List (TimingWheel.Armed τ)
  agenda : TimingWheel.Agenda
  stopped : Bool
  /-- A deadline was out of reach. -/
  broken : Bool

namespace TimingWheel

variable {τ : Type}

def start : TimingWheel τ := ⟨0, 1, 0, [], [], .empty, false, false⟩

/-! ## Callers -/

/-- Ask for a deadline. The delay is clamped to what a timer can be armed for. -/
def schedule (w : TimingWheel τ) (target : τ) (id : UInt64) (delay : Nat) : Nat × TimingWheel τ :=
  (w.nextToken,
    { w with
      nextToken := w.nextToken + 1
      commands := w.commands ++ [.schedule w.nextToken target id (Clock.clamp delay)] })

def cancel (w : TimingWheel τ) (token : Nat) : TimingWheel τ :=
  { w with commands := w.commands ++ [.cancel token] }

def shutdown (w : TimingWheel τ) : TimingWheel τ := { w with stopped := true }

def debugText (w : TimingWheel τ) : String := s!"TimingWheel \x7b stopped: {w.stopped} \x7d"

/-! ## The wheel itself -/

/-- The wheel is broken; its deadlines are lost. -/
def shatter (w : TimingWheel τ) : TimingWheel τ :=
  { w with armed := [], agenda := .empty, broken := true }

/-- Take one command. A broken wheel ignores it. -/
def execute (w : TimingWheel τ) : Command τ → TimingWheel τ
  | .schedule token target id delay =>
    if w.broken then w
    else
      match w.agenda.enter? w.nextKey (w.now + delay) token with
      | none => w.shatter
      | some agenda =>
        { w with
          nextKey := w.nextKey + 1
          armed := w.armed ++ [⟨token, w.nextKey, target, id⟩]
          agenda := agenda }
  | .cancel token =>
    match w.armed.find? (·.token = token) with
    | none => w
    | some entry =>
      { w with
        armed := w.armed.filter (·.token ≠ token)
        agenda := w.agenda.remove entry.key }

/-- Turn the slots of the agenda up to now. -/
def catchUp (w : TimingWheel τ) : TimingWheel τ :=
  if w.stopped then w else { w with agenda := w.agenda.turn w.now }

/-- Take every command that was sent. A stopped wheel takes none. -/
def receive (w : TimingWheel τ) : TimingWheel τ :=
  if w.stopped then w else { w.commands.foldl execute w with commands := [] }.catchUp

/-- Whose deadline is the next to fire, if one is due. -/
def dueTarget? (w : TimingWheel τ) : Option τ :=
  match w.agenda.queue with
  | [] => none
  | q :: _ =>
    if w.stopped ∨ w.now < q.due then none
    else (w.armed.find? (·.token = q.token)).map (·.target)

/-- Take the first deadline that is due. It fires if its token is armed and its target alive. -/
def expireNext (alive : τ → Bool) (w : TimingWheel τ) :
    Option (Option (τ × UInt64) × TimingWheel τ) :=
  if w.stopped then none
  else
    match w.agenda.takeDue w.now with
    | none => none
    | some (q, agenda) =>
      let w := { w with agenda := agenda }.catchUp
      match w.armed.find? (·.token = q.token) with
      | none => some (none, w)
      | some entry =>
        some (if alive entry.target then some (entry.target, entry.id) else none,
          { w with armed := w.armed.filter (·.token ≠ q.token) })

/-- The deadlines that are due, in their order. The fuel is the number of queued deadlines. -/
def expireDue (alive : τ → Bool) : (fuel : Nat) → TimingWheel τ → List (τ × UInt64) × TimingWheel τ
  | 0, w => ([], w)
  | fuel + 1, w =>
    match w.expireNext alive with
    | none => ([], w)
    | some (fired, w) =>
      let (others, w) := expireDue alive fuel w
      (fired.toList ++ others, w)

/-- Take all commands, then all deadlines that are due. -/
def turn (alive : τ → Bool) (w : TimingWheel τ) : List (τ × UInt64) × TimingWheel τ :=
  let w := w.receive
  expireDue alive w.agenda.queue.length w

/-- The earliest due time. -/
def nextDue? (w : TimingWheel τ) : Option Nat :=
  if w.stopped then none else w.agenda.nextDue?

/-- Let the clock come to an instant at or before the earliest due time. -/
def advanceTo (w : TimingWheel τ) (instant : Nat) : TimingWheel τ :=
  { w with now := max w.now instant }.catchUp

/-- Go on to an instant, stopping at each due time on the way. -/
def runUntil (alive : τ → Bool) (instant : Nat) :
    (fuel : Nat) → TimingWheel τ → List (τ × UInt64) × TimingWheel τ
  | 0, w => w.turn alive
  | fuel + 1, w =>
    let (fired, w) := w.turn alive
    match w.nextDue? with
    | none => (fired, w.advanceTo instant)
    | some due =>
      if due ≤ instant then
        let (others, w) := runUntil alive instant fuel (w.advanceTo due)
        (fired ++ others, w)
      else (fired, w.advanceTo instant)

/-- What fires while some time passes. -/
def sleep (alive : τ → Bool) (millis : Nat) (w : TimingWheel τ) :
    List (τ × UInt64) × TimingWheel τ :=
  runUntil alive (w.now + millis) (w.agenda.queue.length + w.commands.length + 1) w

end TimingWheel

end RpcTransport
