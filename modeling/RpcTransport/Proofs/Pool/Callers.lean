import Mathlib.Logic.Relation
import RpcTransport.Proofs.Pool.Steps

/-!
# The callers of a pool

Acquisitions, ends of leases, watchers and the closing of the pool, any number of them, in any order
of their steps. An acquisition steps as `Acquire.step` says, and between two steps of it anybody
else may act; what is left to do when something ends is a list of actions, and each of them is a
step of its own. The factory answers as it likes, the clock shows whatever it likes, and a caller
may lose interest wherever it waits.

Connections change and close on their own. All that is asked of them is that one that has closed
stays closed (`LawfulClosable` and `System.Step.evolve`).
-/

namespace RpcTransport

/-- What was closed is closed. -/
class LawfulClosable (κ : Type) [Closable κ] : Prop where
  isClosed_close : ∀ (reason : String) (c : κ), Closable.isClosed (Closable.close reason c) = true

instance : LawfulClosable Connection where
  isClosed_close reason c := by
    change (c.close reason).closed = true
    rw [Connection.close, Connection.shutdown]
    split
    · next c' h => exact (congrArg (·.2.closed) h).symm
    · next c' h => exact (congrArg (·.2.closed) h).symm

/-! ## What was closed stays closed -/

namespace Pool

variable {κ : Type} [Closable κ] {p : Pool κ} {m : Nat}

/-- A member stays closed, whatever else happens to it. -/
theorem isClosedAt_modifyMember {f : Member κ → Member κ}
    (hf : ∀ x, Closable.isClosed x.connection = true → Closable.isClosed (f x).connection = true)
    (n : Nat) (h : p.isClosedAt m = true) : (p.modifyMember n f).isClosedAt m = true := by
  rw [isClosedAt] at h ⊢
  rw [modifyMember, List.getElem?_modify]
  cases hm : p.members[m]? with
  | none => rfl
  | some x =>
    rw [hm] at h
    by_cases hn : n = m
    · simpa [hn] using hf x h
    · simpa [hn] using h

theorem isClosedAt_addMember (c : κ) (hm : m ≠ p.members.length) :
    (p.addMember c).2.isClosedAt m = p.isClosedAt m := by
  rw [addMember, isClosedAt, isClosedAt, List.getElem?_append]
  split
  · rfl
  · next hle =>
    have hlt : p.members.length < m := by omega
    rw [List.getElem?_eq_none (by simpa using by omega), List.getElem?_eq_none (by omega)]

theorem isClosedAt_perform [LawfulClosable κ] (action : Action) (h : p.isClosedAt m = true) :
    (p.perform action).isClosedAt m = true := by
  cases action with
  | dropLease n =>
    exact isClosedAt_modifyMember (f := fun x ↦ { x with leases := x.leases - 1 }) (fun _ h ↦ h) n h
  | close n reason =>
    exact isClosedAt_modifyMember (fun x _ ↦ LawfulClosable.isClosed_close reason x.connection) n h
  | notify | leaveCreation | returnPermit | prune | watch => exact h

end Pool

/-! ## Moves of an acquisition -/

/-- The connection that was made and is not in the pool yet. -/
def AcquireStage.inHand : AcquireStage → List Nat
  | .holding m | .adopting m => [m]
  | _ => []

/-- What is still to do. -/
def AcquireStage.rest : AcquireStage → List Pool.Action
  | .ending rest _ => rest
  | _ => []

/-- What a move of an acquisition does to its stage and to the pool. This is all that the invariants
of a pool need to know of it: what a step looks at is kept where an invariant rests on it, and all
ways to end without a permit are one. -/
inductive AcquireStage.Passes {κ : Type} [Closable κ] :
    AcquireStage → Pool κ → AcquireStage → Pool κ → Prop where
  | check (p : Pool κ) : Passes .checking p .listening p
  /-- Without a permit in hand an acquisition ends as it is. -/
  | quit {st : AcquireStage} (h : st = .checking ∨ (∃ seen, st = .reserving seen) ∨
      (∃ seen, st = .deciding seen) ∨ ∃ seen deadline, st = .waiting seen deadline)
      (o : AcquireOutcome) (p : Pool κ) : Passes st p (.ending [] o) p
  | again (seen deadline : Nat) (p : Pool κ) : Passes (.waiting seen deadline) p .checking p
  | listen (p : Pool κ) : Passes .listening p (.choosing p.changes) p
  | idle (seen m : Nat) (p : Pool κ) :
      Passes (.choosing seen) p (.ending [] (.leased m)) (p.prune.addLease m)
  | busy (seen : Nat) (p : Pool κ) : Passes (.choosing seen) p (.reserving seen) p.prune
  | reserve {p : Pool κ} (h : 0 < p.permits) (seen : Nat) :
      Passes (.reserving seen) p .entering { p with permits := p.permits - 1 }
  | noPermit {p : Pool κ} (h : p.permits = 0) (seen : Nat) :
      Passes (.reserving seen) p (.sharing seen) p
  | enter (p : Pool κ) : Passes .entering p (.attempting 0) { p with creating := p.creating + 1 }
  | attempt (made generation : Nat) (p : Pool κ) :
      Passes (.attempting made) p (.connecting made generation) { p with generation := generation }
  | resume (made due : Nat) (p : Pool κ) : Passes (.pausing made due) p (.attempting made) p
  | lend (m : Nat) (p : Pool κ) : Passes (.holding m) p (.adopting m) (p.addLease m)
  | keep (m : Nat) (p : Pool κ) : Passes (.holding m) p (.adopting m) (p.perform .leaveCreation)
  | adopt (a : Acquire) (m : Nat) (o : AcquireOutcome) (p : Pool κ) :
      Passes (.adopting m) p (.ending (a.adopted m) o) { p with slots := p.slots ++ [m] }
  | unadopted (a : Acquire) (m : Nat) (p : Pool κ) :
      Passes (.adopting m) p (.ending (a.unadopted m) (.failed .poolClosed)) p
  | share (seen m : Nat) (p : Pool κ) :
      Passes (.sharing seen) p (.ending [] (.leased m)) (p.addLease m)
  | noShare {p : Pool κ} (h : p.pickLeastLeased = none) (seen : Nat) :
      Passes (.sharing seen) p (.deciding seen) p
  | wait (seen deadline : Nat) (p : Pool κ) :
      Passes (.deciding seen) p (.waiting seen deadline) p
  | act (action : Pool.Action) (rest : List Pool.Action) (o : AcquireOutcome) (p : Pool κ) :
      Passes (.ending (action :: rest) o) p (.ending rest o) (p.perform action)
  | connect (made generation : Nat) (c : κ) (p : Pool κ) :
      Passes (.connecting made generation) p (.holding p.members.length) (p.addMember c).2
  | retry (made generation due : Nat) (p : Pool κ) :
      Passes (.connecting made generation) p (.pausing (made + 1) due) p
  /-- A creation ends without a connection. -/
  | abandon {st : AcquireStage} (h : (∃ made generation, st = .connecting made generation) ∨
      ∃ made due, st = .pausing made due) {o : AcquireOutcome}
      (ho : (∃ e, o = .failed e) ∨ o = .aborted) (p : Pool κ) :
      Passes st p (.ending Acquire.abandoned o) p

/-- A move of an acquisition: a step, an answer of the factory, or the end that comes when the
caller loses interest. -/
inductive Acquire.Moves {κ : Type} [Closable κ] : Acquire → Pool κ → Acquire → Pool κ → Prop where
  | step {a a' : Acquire} {p p' : Pool κ} {now : Nat} (h : a.step p now = some (a', p')) :
      Moves a p a' p'
  /-- The factory has made a connection. -/
  | connected {a : Acquire} {made generation : Nat} (h : a.stage = .connecting made generation)
      (c : κ) (p : Pool κ) : Moves a p (a.connected p c).1 (a.connected p c).2
  | refused {a : Acquire} {made generation : Nat} (h : a.stage = .connecting made generation)
      (now : Nat) (e : TransportError) (p : Pool κ) : Moves a p (a.refused p now e) p
  | abort {a a' : Acquire} (h : a.abort = some a') (p : Pool κ) : Moves a p a' p

theorem Acquire.start_stage (config : PoolConfig) (options : AcquireOptions) (now : Nat) :
    (start config options now).stage = .checking ∨
      (start config options now).stage = .ending [] .overflow := by
  rw [start]
  split
  · exact .inl rfl
  · exact .inr rfl

theorem Acquire.passes_of_step {κ : Type} [Closable κ] {a a' : Acquire} {p p' : Pool κ} {now : Nat}
    (h : a.step p now = some (a', p')) : a.stage.Passes p a'.stage p' := by
  obtain ⟨lastAttempt, eager, deadline, inFlightDeadline, stage⟩ := a
  cases does_of_step h with
  | refuse => exact .quit (.inl rfl) _ _
  | check => exact .check _
  | listen => exact .listen _
  | pick => exact .idle _ _ _
  | busy => exact .busy _ _
  | reserve hpermit => exact .reserve hpermit _
  | forgo => exact .quit (.inr (.inl ⟨_, rfl⟩)) _ _
  | noPermit hpermit => exact .noPermit hpermit _
  | enter => exact .enter _
  | attempt => exact .attempt _ _ _
  | resume => exact .resume _ _ _
  | hold =>
    cases eager with
    | true => exact .keep _ _
    | false => exact .lend _ _
  | adopt => exact .adopt _ _ _ _
  | reject => exact .unadopted _ _ _
  | share => exact .share _ _ _
  | noShare hpick => exact .noShare hpick _
  | wait => exact .wait _ _ _
  | giveUp => exact .quit (.inr (.inr (.inl ⟨_, rfl⟩))) _ _
  | again => exact .again _ _ _
  | expire => exact .quit (.inr (.inr (.inr ⟨_, _, rfl⟩))) _ _
  | act => exact .act _ _ _ _

theorem Acquire.passes_of_moves {κ : Type} [Closable κ] {a a' : Acquire} {p p' : Pool κ}
    (h : a.Moves p a' p') : a.stage.Passes p a'.stage p' := by
  cases h with
  | step h => exact passes_of_step h
  | connected h c =>
    rw [h]
    exact .connect _ _ c _
  | refused h now e =>
    rw [refused]
    simp only [h]
    split
    · exact .retry _ _ _ _
    · exact .abandon (.inl ⟨_, _, rfl⟩) (.inl ⟨_, rfl⟩) _
  | abort h =>
    rw [abort] at h
    split at h
    · next made generation hst =>
      obtain rfl := Option.some.inj h
      rw [hst]
      exact .abandon (.inl ⟨_, _, rfl⟩) (.inr rfl) _
    · next made due hst =>
      obtain rfl := Option.some.inj h
      rw [hst]
      exact .abandon (.inr ⟨_, _, rfl⟩) (.inr rfl) _
    · next seen deadline hst =>
      obtain rfl := Option.some.inj h
      rw [hst]
      exact .quit (.inr (.inr (.inr ⟨_, _, rfl⟩))) _ _
    · exact nomatch h

namespace AcquireStage.Passes

variable {κ : Type} [Closable κ] {st st' : AcquireStage} {p p' : Pool κ}

theorem rest_eq (h : st.Passes p st' p') :
    (∃ action, st.rest = action :: st'.rest ∧ p' = p.perform action) ∨ st.rest = [] := by
  cases h with
  | act action => exact .inl ⟨action, rfl, rfl⟩
  | quit h =>
    rcases h with rfl | ⟨_, rfl⟩ | ⟨_, rfl⟩ | ⟨_, _, rfl⟩
    all_goals exact .inr rfl
  | abandon h =>
    rcases h with ⟨_, _, rfl⟩ | ⟨_, _, rfl⟩
    all_goals exact .inr rfl
  | _ => exact .inr rfl

/-- Only a connection that the factory has just made is open and was not. -/
theorem isClosedAt_or [LawfulClosable κ] {m : Nat} (h : st.Passes p st' p')
    (hm : p.isClosedAt m = true) :
    p'.isClosedAt m = true ∨ m = p.members.length ∧ m ∈ st'.inHand := by
  cases h with
  | idle _ n | share _ n | lend n =>
    exact .inl (Pool.isClosedAt_modifyMember (f := fun x ↦ { x with leases := x.leases + 1 })
      (fun _ h ↦ h) n hm)
  | act action => exact .inl (Pool.isClosedAt_perform action hm)
  | connect made generation c =>
    by_cases hlast : m = p.members.length
    · exact .inr ⟨hlast, List.mem_singleton.mpr hlast⟩
    · exact .inl ((Pool.isClosedAt_addMember c hlast).trans hm)
  | _ => exact .inl hm

end AcquireStage.Passes

namespace Pool

variable {κ : Type} [Closable κ]

/-! ## Tasks -/

/-- What one caller is at. -/
inductive Task where
  | acquire (a : Acquire)
  /-- What is left of the end of a lease, of a watcher's work or of a closing. -/
  | chores (rest : List Action)
  /-- A closing sets the flag. -/
  | closing
  /-- A closing that set the flag takes the slots. -/
  | draining
deriving DecidableEq, Repr

def Task.rest : Task → List Action
  | acquire a => a.stage.rest
  | chores rest => rest
  | closing | draining => []

/-- The connection a task has made and has not put into the pool. -/
def Task.inHand : Task → List Nat
  | acquire a => a.stage.inHand
  | chores _ | closing | draining => []

/-- One step of a task: the task and the pool before, and both afterwards. -/
inductive Moves : Task → Pool κ → Task → Pool κ → Prop where
  | acquire {a a' : Acquire} {p p' : Pool κ} (h : a.Moves p a' p') :
      Moves (.acquire a) p (.acquire a') p'
  | chore (action : Action) (rest : List Action) (p : Pool κ) :
      Moves (.chores (action :: rest)) p (.chores rest) (p.perform action)
  | close {p : Pool κ} (h : p.closed = false) : Moves .closing p .draining p.markClosed.2
  | closeNone {p : Pool κ} (h : p.closed = true) : Moves .closing p (.chores []) p.markClosed.2
  | drain (p : Pool κ) : Moves .draining p (.chores (drainedActions p.slots)) p.drain.2

section

variable {k k' : Task} {p p' : Pool κ} {m : Nat}

/-- What a task has left to do it does in order, and nothing else before that. -/
theorem Moves.rest_eq (h : Moves k p k' p') :
    (∃ action, k.rest = action :: k'.rest ∧ p' = p.perform action) ∨ k.rest = [] := by
  cases h with
  | acquire h => exact (Acquire.passes_of_moves h).rest_eq
  | chore action => exact .inl ⟨action, rfl, rfl⟩
  | close | closeNone | drain => exact .inr rfl

theorem Moves.isClosedAt_or [LawfulClosable κ] (h : Moves k p k' p')
    (hm : p.isClosedAt m = true) :
    p'.isClosedAt m = true ∨ m = p.members.length ∧ m ∈ k'.inHand := by
  cases h with
  | acquire h => exact (Acquire.passes_of_moves h).isClosedAt_or hm
  | chore action => exact .inl (isClosedAt_perform action hm)
  | close | closeNone | drain => exact .inl hm

theorem mem_set_or_eq {ks : List Task} {i : Nat} {l : Task} (hi : ks[i]? = some k) (hl : l ∈ ks)
    (k' : Task) : l ∈ ks.set i k' ∨ l = k := by
  obtain ⟨j, hj⟩ := List.mem_iff_getElem?.mp hl
  by_cases hij : i = j
  · subst hij
    exact .inr (Option.some.inj (hj.symm.trans hi))
  · exact .inl (List.mem_of_getElem? ((List.getElem?_set_ne hij).trans hj))

theorem set_of_getElem? {ks : List Task} {i : Nat} (hi : ks[i]? = some k) : ks.set i k = ks := by
  obtain ⟨hlt, hget⟩ := List.getElem?_eq_some_iff.mp hi
  rw [← hget, List.set_getElem_self]

theorem mem_set_self {ks : List Task} {i : Nat} (hi : ks[i]? = some k) (k' : Task) :
    k' ∈ ks.set i k' := List.mem_set (List.getElem?_eq_some_iff.mp hi).1 k'

end

structure System (κ : Type) where
  pool : Pool κ
  tasks : List Task

namespace System

/-- A new pool, which may be about to make its first connection. -/
def start (κ : Type) (config : PoolConfig) (target : String) (now : Nat) : System κ :=
  ⟨.start config target, if config.eagerInit then [.acquire (.startEager now)] else []⟩

inductive Step : System κ → System κ → Prop where
  | acquire (options : AcquireOptions) (now : Nat) (s : System κ) :
      Step s ⟨s.pool, s.tasks ++ [.acquire (.start s.pool.config options now)]⟩
  /-- A lease ends. -/
  | release (m : Nat) (s : System κ) : Step s ⟨s.pool, s.tasks ++ [.chores (releaseActions m)]⟩
  | closeAll (s : System κ) : Step s ⟨s.pool, s.tasks ++ [.closing]⟩
  /-- A watcher sees that its connection has closed. -/
  | wake {m : Nat} {s : System κ} (hm : m ∈ s.pool.watched) (h : s.pool.isClosedAt m = true) :
      Step s ⟨{ s.pool with watched := s.pool.watched.erase m },
        s.tasks ++ [.chores closedActions]⟩
  /-- A connection goes on, and it may close, but it does not open again. -/
  | evolve (m : Nat) (f : κ → κ)
      (hf : ∀ c, Closable.isClosed c = true → Closable.isClosed (f c) = true) (s : System κ) :
      Step s ⟨s.pool.modifyMember m fun x ↦ { x with connection := f x.connection }, s.tasks⟩
  | move (i : Nat) {k k' : Task} {p : Pool κ} {s : System κ} (hi : s.tasks[i]? = some k)
      (h : Moves k s.pool k' p) : Step s ⟨p, s.tasks.set i k'⟩

theorem Step.act {a a' : Acquire} {p : Pool κ} {s : System κ} (i now : Nat)
    (hi : s.tasks[i]? = some (.acquire a)) (h : a.step s.pool now = some (a', p)) :
    Step s ⟨p, s.tasks.set i (.acquire a')⟩ := .move i hi (.acquire (.step h))

/-- To run an acquisition until it waits is one of the ways in which its steps may come. -/
theorem reachable_run_of {R : System κ → System κ → Prop}
    (hact : ∀ {a a' : Acquire} {p : Pool κ} {s : System κ} (i now : Nat),
      s.tasks[i]? = some (.acquire a) → a.step s.pool now = some (a', p) →
      R s ⟨p, s.tasks.set i (.acquire a')⟩)
    (i now fuel : Nat) {a : Acquire} {s : System κ} (hi : s.tasks[i]? = some (.acquire a)) :
    Relation.ReflTransGen R s
      ⟨(a.run now fuel s.pool).2, s.tasks.set i (.acquire (a.run now fuel s.pool).1)⟩ := by
  induction fuel generalizing a s with
  | zero =>
    rw [Acquire.run, set_of_getElem? hi]
  | succ fuel ih =>
    rw [Acquire.run]
    split
    · rw [set_of_getElem? hi]
    · next a' p hstep =>
      have hi' : (s.tasks.set i (.acquire a'))[i]? = some (.acquire a') :=
        List.getElem?_set_self (List.getElem?_eq_some_iff.mp hi).1
      have hrun := ih (s := ⟨p, s.tasks.set i (.acquire a')⟩) hi'
      rw [List.set_set] at hrun
      exact .head (hact i now hi hstep) hrun

theorem reachable_run (i now fuel : Nat) {a : Acquire} {s : System κ}
    (hi : s.tasks[i]? = some (.acquire a)) :
    Relation.ReflTransGen Step s
      ⟨(a.run now fuel s.pool).2, s.tasks.set i (.acquire (a.run now fuel s.pool).1)⟩ :=
  reachable_run_of Step.act i now fuel hi

end System

end Pool

end RpcTransport
