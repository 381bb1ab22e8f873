/-!
# The due times of a timing wheel

Due times wait in slots on six levels. A slot of the lowest level holds one millisecond, a level has
64 slots, and a slot of the next level is as wide as all slots of the level below together. The
agenda remembers up to which instant its slots were *turned*. A due time waits on the level of the
highest digit, to the base 64, in which it differs from that instant, and is moved down when its
slot begins; so no due time further off than all slots together can be entered at all.

The slots are turned only when the agenda *wakes*: at the first due time if that was just entered,
else at the beginning of the next slot that is not empty. While nothing is waiting they stay where
they are, however long that is.

## Representation

The level of a due time follows from it and from the turned instant, so one list in the order of the
due times stands for all slots. A slot is a stack that is turned over whenever it is moved down a
level: of equal due times the one entered last comes first if the number of moves ahead is even, and
last if it is odd.

A due time that is not after the turned instant never enters a slot. It is *late*, and first in
line.
-/

namespace RpcTransport.TimingWheel

/-- A due time, with the key it is removed by. -/
structure Queued where
  key : Nat
  due : Nat
  token : Nat
  late : Bool
deriving DecidableEq, Repr

structure Agenda where
  /-- The instant up to which the slots were turned. -/
  turned : Nat
  /-- When they are to be turned next. -/
  wake : Option Nat
  /-- By due time. -/
  queue : List Queued
deriving DecidableEq, Repr

namespace Agenda

def empty : Agenda := ⟨0, none, []⟩

/-! ## Slots -/

def topLevel : Nat := 5

/-- How many milliseconds a slot of a level holds. -/
def slotWidth (level : Nat) : Nat := Nat.pow 64 level

/-- The furthest a due time can be from the turned instant. -/
def reach : Nat := slotWidth (topLevel + 1) - 1

/-- The level on which a due time waits. -/
def levelOf (turned due : Nat) : Nat := min topLevel (Nat.log2 ((turned ^^^ due) ||| 63) / 6)

/-- The beginning of the slot in which a due time waits. -/
def slotStart (turned due : Nat) : Nat :=
  let width := slotWidth (levelOf turned due)
  due / width * width

/-- The beginning of the first slot that is not empty. -/
def nextStart? (turned : Nat) (queue : List Queued) : Option Nat :=
  (queue.find? fun q ↦ !q.late).map fun q ↦ slotStart turned q.due

/-! ## Entering and removing -/

/-- Put a due time before those after it, and among its equals first or last. -/
def place (first : Bool) (entry : Queued) : List Queued → List Queued
  | [] => [entry]
  | q :: qs =>
    if entry.due < q.due ∨ (first ∧ entry.due = q.due) then entry :: q :: qs
    else q :: place first entry qs

/-- Enter a due time, unless it is out of reach. -/
def enter? (a : Agenda) (key due token : Nat) : Option Agenda :=
  if due - a.turned > reach then none
  else
    let due := max due a.turned
    let late := decide (due = a.turned)
    let queue :=
      if late then ⟨key, due, token, true⟩ :: a.queue
      else place (levelOf a.turned due % 2 == 0) ⟨key, due, token, false⟩ a.queue
    let wake := match a.wake with
      | some t => if due < max t a.turned then due else t
      | none => due
    some { a with wake := some wake, queue := queue }

/-- Remove a due time. -/
def remove (a : Agenda) (key : Nat) : Agenda :=
  let queue := a.queue.filter (·.key ≠ key)
  let next := nextStart? a.turned queue
  { a with wake := if next = nextStart? a.turned a.queue then a.wake else next, queue := queue }

/-! ## Turning -/

/-- Turn the slots as often as they are due before the first due time is. The fuel is a bound on
that: the first due time is moved down by a level each time but the first. -/
def turnFor (now : Nat) : (fuel : Nat) → Agenda → Agenda
  | 0, a => a
  | fuel + 1, a =>
    match a.queue, a.wake with
    | q :: _, some t =>
      if !q.late && decide (t ≤ now) && decide (t < q.due) then
        let turned := max a.turned t
        turnFor now fuel { a with turned := turned, wake := some (slotStart turned q.due) }
      else a
    | _, _ => a

/-- Turn the slots up to now, as far as they would have been turned by themselves. -/
def turn (a : Agenda) (now : Nat) : Agenda := turnFor now (topLevel + 2) a

/-- Take the first due time, if its time has come. It was moved down to the lowest level, and the
slots were turned to the last slot that it was moved from. -/
def takeDue (a : Agenda) (now : Nat) : Option (Queued × Agenda) :=
  match a.queue with
  | [] => none
  | q :: qs =>
    if q.late then some (q, { a with queue := qs })
    else if now < q.due then none
    else
      let turned :=
        if levelOf a.turned q.due = 0 then a.turned else q.due / slotWidth 1 * slotWidth 1
      some (q, ⟨turned, nextStart? turned qs, qs⟩)

/-- The first due time. -/
def nextDue? (a : Agenda) : Option Nat := a.queue.head?.map (·.due)

end Agenda

end RpcTransport.TimingWheel
