import Mathlib.Logic.Function.Basic
import Mathlib.Logic.Relation
import RpcTransport.Proofs.TimingWheel.Pairing

/-!
# What happens to a wheel

Callers schedule and cancel, targets go, the clock goes on, and somebody stops the wheel. The wheel
takes its commands one by one and its deadlines one by one, in whatever order the two are mixed;
that commands come before deadlines is not used. Whatever happens is logged, so that a deadline can
be judged by what came before it: when it was scheduled and for whom, whether it was cancelled, and
whether its target was still there.

A cancellation counts from when the wheel takes it, and a token that is cancelled before the wheel
knows it is not cancelled at all.
-/

namespace RpcTransport.TimingWheel

variable {τ : Type}

inductive Incident (τ : Type) where
  /-- A caller asked for a deadline. -/
  | asked (token : Nat) (target : τ) (id : UInt64) (delay instant : Nat)
  /-- A caller asked to cancel a deadline. -/
  | withdrawn (token : Nat)
  | dropped (target : τ)
  | stopped
  /-- The wheel took a command. -/
  | took (c : Command τ) (instant : Nat)
  /-- The wheel took a deadline from the agenda; it fired, unless the target was gone. -/
  | expired (token instant : Nat) (fired : Option (τ × UInt64))

abbrev Log (τ : Type) := List (Incident τ)

def Incident.sent? : Incident τ → Option (Command τ)
  | .asked token target id delay _ => some (.schedule token target id (Clock.clamp delay))
  | .withdrawn token => some (.cancel token)
  | _ => none

def Incident.taken? : Incident τ → Option (Command τ)
  | .took c _ => some c
  | _ => none

def Incident.fired? : Incident τ → Option (τ × UInt64)
  | .expired _ _ fired => fired
  | _ => none

/-! ## Reading the log -/

/-- An incident of some kind is in the log, after what came before it. -/
def Happened (P : Log τ → Incident τ → Prop) (log : Log τ) : Prop :=
  ∃ before x after, log = before ++ x :: after ∧ P before x

/-- The wheel took a deadline on, which was due at some instant. -/
def Scheduled (log : Log τ) (token : Nat) (target : τ) (id : UInt64) (due : Nat) : Prop :=
  ∃ delay instant, .took (.schedule token target id delay) instant ∈ log ∧ due = instant + delay

def Known (log : Log τ) (token : Nat) : Prop :=
  ∃ target id due, Scheduled log token target id due

def Expired (log : Log τ) (token : Nat) : Prop :=
  ∃ instant fired, .expired token instant fired ∈ log

/-- The wheel took a cancellation of a deadline that it knew. -/
def Cancelled (log : Log τ) (token : Nat) : Prop :=
  Happened (fun before x ↦ (∃ instant, x = .took (.cancel token) instant) ∧ Known before token) log

/-- It did so before the deadline expired. -/
def Revoked (log : Log τ) (token : Nat) : Prop :=
  Happened (fun before x ↦ ((∃ instant, x = .took (.cancel token) instant) ∧ Known before token) ∧
    ¬ Expired before token) log

/-- The target was gone before the deadline expired. -/
def Orphaned (log : Log τ) (token : Nat) (target : τ) : Prop :=
  Happened (fun before x ↦ x = .dropped target ∧ ¬ Expired before token) log

/-- **A rightful expiry**, after what came before it. -/
structure Expiry (before : Log τ) (token : Nat) (target : τ) (id : UInt64) (due instant : Nat)
    (fired : Option (τ × UInt64)) : Prop where
  scheduled : Scheduled before token target id due
  due_le : due ≤ instant
  elapsed : ∃ delay since, .asked token target id delay since ∈ before ∧
    since + min delay Clock.longestTimer ≤ instant
  once : ¬ Expired before token
  not_cancelled : ¬ Cancelled before token
  not_stopped : .stopped ∉ before
  in_order : ∀ earlier target' id' due', Expired before earlier →
    Scheduled before earlier target' id' due' → due' ≤ due
  fired_or_gone : fired = some (target, id) ∧ .dropped target ∉ before ∨
    fired = none ∧ .dropped target ∈ before

def Rightful (log : Log τ) : Prop :=
  ∀ before token instant fired after, log = before ++ .expired token instant fired :: after →
    ∃ target id due, Expiry before token target id due instant fired

/-! ## One more incident -/

section Append

variable {log : Log τ} {x : Incident τ} {token : Nat} {target : τ} {id : UInt64} {due : Nat}

theorem append_singleton_split {before after : Log τ} {y : Incident τ}
    (h : log ++ [x] = before ++ y :: after) :
    (log = before ∧ x = y) ∨ ∃ after', log = before ++ y :: after' := by
  rcases List.eq_nil_or_concat after with rfl | ⟨after, z, rfl⟩
  · obtain ⟨hlog, hxy⟩ := List.append_inj' h rfl
    exact .inl ⟨hlog, List.singleton_inj.mp hxy⟩
  · rw [List.concat_eq_append, ← List.cons_append, ← List.append_assoc] at h
    exact .inr ⟨after, (List.append_inj' h rfl).1⟩

theorem happened_append {P : Log τ → Incident τ → Prop} :
    Happened P (log ++ [x]) ↔ Happened P log ∨ P log x := by
  constructor
  · rintro ⟨before, y, after, heq, hy⟩
    rcases append_singleton_split heq with ⟨rfl, rfl⟩ | ⟨after', hlog⟩
    · exact .inr hy
    · exact .inl ⟨before, y, after', hlog, hy⟩
  · rintro (⟨before, y, after, rfl, hy⟩ | hx)
    · exact ⟨before, y, after ++ [x], by simp, hy⟩
    · exact ⟨log, x, [], rfl, hx⟩

theorem scheduled_append :
    Scheduled (log ++ [x]) token target id due ↔ Scheduled log token target id due ∨
      ∃ delay instant, x = .took (.schedule token target id delay) instant ∧
        due = instant + delay := by
  simp only [Scheduled, List.mem_append, List.mem_singleton, or_and_right, exists_or,
    eq_comm (a := x)]

theorem expired_append :
    Expired (log ++ [x]) token ↔
      Expired log token ∨ ∃ instant fired, x = .expired token instant fired := by
  simp only [Expired, List.mem_append, List.mem_singleton, exists_or, eq_comm (a := x)]

theorem rightful_append (h : Rightful log)
    (hx : ∀ token instant fired, x = .expired token instant fired →
      ∃ target id due, Expiry log token target id due instant fired) :
    Rightful (log ++ [x]) := by
  intro before token instant fired after heq
  rcases append_singleton_split heq with ⟨rfl, hx'⟩ | ⟨after', hlog⟩
  · exact hx token instant fired hx'
  · exact h before token instant fired after' hlog

theorem Scheduled.known (h : Scheduled log token target id due) : Known log token :=
  ⟨target, id, due, h⟩

theorem Scheduled.mono (h : Scheduled log token target id due) (after : Log τ) :
    Scheduled (log ++ after) token target id due := by
  obtain ⟨delay, instant, hmem, heq⟩ := h
  exact ⟨delay, instant, List.mem_append_left _ hmem, heq⟩

theorem Known.mono (h : Known log token) (after : Log τ) : Known (log ++ after) token := by
  obtain ⟨target, id, due, hscheduled⟩ := h
  exact ⟨target, id, due, hscheduled.mono after⟩

theorem Cancelled.known (h : Cancelled log token) : Known log token := by
  obtain ⟨before, y, after, rfl, -, hknown⟩ := h
  exact hknown.mono _

theorem Revoked.cancelled (h : Revoked log token) : Cancelled log token := by
  obtain ⟨before, y, after, heq, hy, -⟩ := h
  exact ⟨before, y, after, heq, hy⟩

end Append

/-- Of two incidents in a log, one comes first, or they are one. -/
theorem split_cases {before₁ after₁ before₂ after₂ : Log τ} {x₁ x₂ : Incident τ}
    (h : before₁ ++ x₁ :: after₁ = before₂ ++ x₂ :: after₂) :
    (before₁ = before₂ ∧ x₁ = x₂) ∨ (∃ between, before₂ = before₁ ++ x₁ :: between) ∨
      ∃ between, before₁ = before₂ ++ x₂ :: between := by
  rcases List.append_eq_append_iff.mp h with ⟨rest, h₁, h₂⟩ | ⟨rest, h₁, h₂⟩
  · cases rest with
    | nil => exact .inl ⟨by simpa using h₁.symm, (List.cons.inj h₂).1⟩
    | cons y rest =>
      obtain ⟨rfl, -⟩ := List.cons.inj h₂
      exact .inr (.inl ⟨rest, h₁⟩)
  · cases rest with
    | nil => exact .inl ⟨by simpa using h₁, (List.cons.inj h₂).1.symm⟩
    | cons y rest =>
      obtain ⟨rfl, -⟩ := List.cons.inj h₂
      exact .inr (.inr ⟨rest, h₁⟩)

/-! ## The system -/

/-- A wheel with the targets that are still there. -/
structure System (τ : Type) where
  wheel : TimingWheel τ
  alive : τ → Bool
  log : Log τ

namespace System

variable [DecidableEq τ]

def start : System τ := ⟨.start, fun _ ↦ true, []⟩

inductive Step : System τ → System τ → Prop where
  | schedule (target : τ) (id : UInt64) (delay : Nat) (s : System τ) :
      Step s { s with
        wheel := (s.wheel.schedule target id delay).2
        log := s.log ++
          [.asked (s.wheel.schedule target id delay).1 target id delay s.wheel.now] }
  | cancel (token : Nat) (s : System τ) :
      Step s { s with wheel := s.wheel.cancel token, log := s.log ++ [.withdrawn token] }
  | drop (target : τ) (s : System τ) :
      Step s { s with
        alive := Function.update s.alive target false
        log := s.log ++ [.dropped target] }
  | shutdown (s : System τ) :
      Step s { s with wheel := s.wheel.shutdown, log := s.log ++ [.stopped] }
  | advance (instant : Nat) (s : System τ) :
      Step s { s with wheel := s.wheel.advanceTo instant }
  /-- The slots are turned. -/
  | catchUp (s : System τ) : Step s { s with wheel := s.wheel.catchUp }
  | take (s : System τ) {c : Command τ} {rest : List (Command τ)}
      (hrun : s.wheel.stopped = false) (h : s.wheel.commands = c :: rest) :
      Step s { s with
        wheel := { s.wheel with commands := rest }.execute c
        log := s.log ++ [.took c s.wheel.now] }
  | expire (s : System τ) {q : Queued} {agenda : Agenda} {fired : Option (τ × UInt64)}
      {w : TimingWheel τ} (hdue : s.wheel.agenda.takeDue s.wheel.now = some (q, agenda))
      (h : s.wheel.expireNext s.alive = some (fired, w)) :
      Step s { s with wheel := w, log := s.log ++ [.expired q.token s.wheel.now fired] }

/-- A wheel has nothing to do at this instant: every command is taken, and no deadline is due. -/
def Settled (s : System τ) : Prop :=
  s.wheel.commands = [] ∧ s.wheel.agenda.takeDue s.wheel.now = none

/-- **What is promised** of a wheel and of what happened to it. -/
structure Kept (s : System τ) : Prop where
  pairs : (s.wheel.armed.map Armed.pair).Perm (s.wheel.agenda.queue.map Queued.pair)
  tokens : (s.wheel.armed.map (·.token)).Nodup
  /-- Who is to be cancelled has a key in the agenda. -/
  removable : ∀ token entry, s.wheel.armed.find? (·.token = token) = some entry →
    ∃ q ∈ s.wheel.agenda.queue, q.token = token ∧ q.key = entry.key
  /-- Who is taken from the agenda is armed. -/
  expirable : ∀ q agenda, s.wheel.agenda.takeDue s.wheel.now = some (q, agenda) →
    ∃ entry, s.wheel.armed.find? (·.token = q.token) = some entry ∧ entry.key = q.key
  /-- Commands are taken in the order in which they were sent. -/
  commands : s.log.filterMap Incident.sent? =
    s.log.filterMap Incident.taken? ++ s.wheel.commands
  rightful : Rightful s.log
  /-- What fired is what was due and was neither cancelled nor without its target before. -/
  complete : s.Settled → s.wheel.broken = false → ∀ token target id,
    (∃ instant, .expired token instant (some (target, id)) ∈ s.log) ↔
      (∃ due ≤ s.wheel.now, Scheduled s.log token target id due) ∧
        ¬ Revoked s.log token ∧ ¬ Orphaned s.log token target
  /-- No deadline is out of reach until the clock is a year short of the reach of the agenda. -/
  broken_late : s.wheel.broken = true → Agenda.reach < s.wheel.now + Clock.longestTimer

end System

end RpcTransport.TimingWheel
