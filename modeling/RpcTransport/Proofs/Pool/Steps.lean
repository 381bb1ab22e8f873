import RpcTransport.Pool.Acquire

/-!
# The steps of an acquisition

`Acquire.step` goes by the stage of an acquisition and then by what it finds in the pool and on the
clock. Here are all ways through it (`Acquire.Does`), each with what was found on it and with what
becomes of the acquisition and of the pool. What a step keeps, and what it cannot do, is told from
these and not from the definition.
-/

namespace RpcTransport

namespace Acquire

variable {κ : Type}

/-- Who decides whether to wait does wait, perhaps until a deadline told for the first time, or
gives up without a connection. -/
theorem waitUntil_cases (a : Acquire) (p : Pool κ) (now : Nat) :
    (∃ deadline inFlight, a.waitUntil p now =
      (some deadline, { a with inFlightDeadline := inFlight })) ∨
    ∃ o, a.waitUntil p now = (none, a.finish [] o) ∧
      (o = .overflow ∨ o = .failed p.exhausted) := by
  rw [waitUntil]
  split
  · exact .inl ⟨_, _, rfl⟩
  · split
    · split
      · exact .inl ⟨_, _, rfl⟩
      · split
        · exact .inl ⟨_, _, rfl⟩
        · exact .inr ⟨_, rfl, .inl rfl⟩
    · exact .inr ⟨_, rfl, .inr rfl⟩

variable [Closable κ]

/-- **What a step does.** The stage is the one in which the acquisition was. -/
inductive Does (a : Acquire) (p : Pool κ) (now : Nat) : AcquireStage → Acquire → Pool κ → Prop where
  | refuse (hclosed : p.closed = true) : Does a p now .checking (a.failWith .poolClosed) p
  | check (hopen : p.closed = false) : Does a p now .checking { a with stage := .listening } p
  | listen : Does a p now .listening { a with stage := .choosing p.changes } p
  | pick {seen m : Nat} (hpick : p.prune.pickIdle = some m) :
      Does a p now (.choosing seen) (a.finish [] (.leased m)) (p.prune.addLease m)
  | busy {seen : Nat} (hpick : p.prune.pickIdle = none) :
      Does a p now (.choosing seen) { a with stage := .reserving seen } p.prune
  | reserve {seen : Nat} (hpermit : 0 < p.permits) :
      Does a p now (.reserving seen) { a with stage := .entering }
        { p with permits := p.permits - 1 }
  /-- The first connection of a pool is not made, for want of a permit. -/
  | forgo {seen : Nat} (hpermit : p.permits = 0) (heager : a.eager = true) :
      Does a p now (.reserving seen) (a.failWith p.exhausted) p
  | noPermit {seen : Nat} (hpermit : p.permits = 0) (heager : a.eager = false) :
      Does a p now (.reserving seen) { a with stage := .sharing seen } p
  | enter : Does a p now .entering { a with stage := .attempting 0 }
      { p with creating := p.creating + 1 }
  | attempt {made : Nat} :
      Does a p now (.attempting made) { a with stage := .connecting made (p.generation + 1) }
        { p with generation := p.generation + 1 }
  | resume {made due : Nat} (hdue : due ≤ now) :
      Does a p now (.pausing made due) { a with stage := .attempting made } p
  | hold {m : Nat} : Does a p now (.holding m) { a with stage := .adopting m }
      (if a.eager then p.perform .leaveCreation else p.addLease m)
  | adopt {m : Nat} (hopen : p.closed = false) :
      Does a p now (.adopting m)
        (a.finish (a.adopted m) (if a.eager then .made m else .leased m))
        { p with slots := p.slots ++ [m] }
  /-- The pool was closed before the connection came into it. -/
  | reject {m : Nat} (hclosed : p.closed = true) :
      Does a p now (.adopting m) (a.finish (a.unadopted m) (.failed .poolClosed)) p
  | share {seen m : Nat} (hpick : p.pickLeastLeased = some m) :
      Does a p now (.sharing seen) (a.finish [] (.leased m)) (p.addLease m)
  | noShare {seen : Nat} (hpick : p.pickLeastLeased = none) :
      Does a p now (.sharing seen) { a with stage := .deciding seen } p
  | wait {seen deadline : Nat} {inFlight : Option Nat}
      (hwait : a.waitUntil p now = (some deadline, { a with inFlightDeadline := inFlight })) :
      Does a p now (.deciding seen)
        { a with inFlightDeadline := inFlight, stage := .waiting seen deadline } p
  | giveUp {seen : Nat} {o : AcquireOutcome} (ho : o = .overflow ∨ o = .failed p.exhausted)
      (hwait : a.waitUntil p now = (none, a.finish [] o)) :
      Does a p now (.deciding seen) (a.finish [] o) p
  | again {seen deadline : Nat} (hchanged : p.changes ≠ seen) :
      Does a p now (.waiting seen deadline) { a with stage := .checking } p
  | expire {seen deadline : Nat} (hsame : p.changes = seen) (hdue : deadline ≤ now) :
      Does a p now (.waiting seen deadline) (a.failWith p.exhausted) p
  | act {action : Pool.Action} {rest : List Pool.Action} {o : AcquireOutcome} :
      Does a p now (.ending (action :: rest) o) (a.finish rest o) (p.perform action)

theorem does_of_step {a a' : Acquire} {p p' : Pool κ} {now : Nat}
    (h : a.step p now = some (a', p')) : a.Does p now a.stage a' p' := by
  rw [step] at h
  cases hst : a.stage with
  | checking =>
    simp only [hst, Option.some.injEq] at h
    by_cases hclosed : p.closed = true
    · rw [if_pos hclosed] at h
      obtain ⟨rfl, rfl⟩ := Prod.mk.inj h
      exact .refuse hclosed
    · rw [if_neg hclosed] at h
      obtain ⟨rfl, rfl⟩ := Prod.mk.inj h
      exact .check (eq_false_of_ne_true hclosed)
  | listening =>
    simp only [hst, Option.some.injEq] at h
    obtain ⟨rfl, rfl⟩ := Prod.mk.inj h
    exact .listen
  | choosing seen =>
    simp only [hst] at h
    cases hpick : p.prune.pickIdle with
    | some m =>
      rw [hpick] at h
      obtain ⟨rfl, rfl⟩ := Prod.mk.inj (Option.some.inj h)
      exact .pick hpick
    | none =>
      rw [hpick] at h
      obtain ⟨rfl, rfl⟩ := Prod.mk.inj (Option.some.inj h)
      exact .busy hpick
  | reserving seen =>
    simp only [hst] at h
    by_cases hpermit : p.permits > 0
    · rw [if_pos hpermit] at h
      obtain ⟨rfl, rfl⟩ := Prod.mk.inj (Option.some.inj h)
      exact .reserve hpermit
    · have hnone : p.permits = 0 := Nat.eq_zero_of_not_pos hpermit
      rw [if_neg hpermit] at h
      by_cases heager : a.eager = true
      · rw [if_pos heager] at h
        obtain ⟨rfl, rfl⟩ := Prod.mk.inj (Option.some.inj h)
        exact .forgo hnone heager
      · rw [if_neg heager] at h
        obtain ⟨rfl, rfl⟩ := Prod.mk.inj (Option.some.inj h)
        exact .noPermit hnone (eq_false_of_ne_true heager)
  | entering =>
    simp only [hst, Option.some.injEq] at h
    obtain ⟨rfl, rfl⟩ := Prod.mk.inj h
    exact .enter
  | attempting made =>
    simp only [hst, Option.some.injEq] at h
    obtain ⟨rfl, rfl⟩ := Prod.mk.inj h
    exact .attempt
  | connecting made generation => simp only [hst, reduceCtorEq] at h
  | pausing made due =>
    simp only [hst] at h
    by_cases hdue : due ≤ now
    · rw [if_pos hdue] at h
      obtain ⟨rfl, rfl⟩ := Prod.mk.inj (Option.some.inj h)
      exact .resume hdue
    · rw [if_neg hdue] at h
      cases h
  | holding m =>
    simp only [hst, Option.some.injEq] at h
    obtain ⟨rfl, rfl⟩ := Prod.mk.inj h
    exact .hold
  | adopting m =>
    simp only [hst, Pool.adopt] at h
    by_cases hclosed : p.closed = true
    · rw [if_pos hclosed] at h
      obtain ⟨rfl, rfl⟩ := Prod.mk.inj (Option.some.inj h)
      exact .reject hclosed
    · rw [if_neg hclosed] at h
      obtain ⟨rfl, rfl⟩ := Prod.mk.inj (Option.some.inj h)
      exact .adopt (eq_false_of_ne_true hclosed)
  | sharing seen =>
    simp only [hst] at h
    cases hpick : p.pickLeastLeased with
    | some m =>
      rw [hpick] at h
      obtain ⟨rfl, rfl⟩ := Prod.mk.inj (Option.some.inj h)
      exact .share hpick
    | none =>
      rw [hpick] at h
      obtain ⟨rfl, rfl⟩ := Prod.mk.inj (Option.some.inj h)
      exact .noShare hpick
  | deciding seen =>
    simp only [hst] at h
    rcases a.waitUntil_cases p now with ⟨deadline, inFlight, hwait⟩ | ⟨o, hwait, ho⟩
    · rw [hwait] at h
      obtain ⟨rfl, rfl⟩ := Prod.mk.inj (Option.some.inj h)
      exact .wait hwait
    · rw [hwait] at h
      obtain ⟨rfl, rfl⟩ := Prod.mk.inj (Option.some.inj h)
      exact .giveUp ho hwait
  | waiting seen deadline =>
    simp only [hst] at h
    by_cases hchanged : p.changes ≠ seen
    · rw [if_pos hchanged] at h
      obtain ⟨rfl, rfl⟩ := Prod.mk.inj (Option.some.inj h)
      exact .again hchanged
    · rw [if_neg hchanged] at h
      by_cases hdue : deadline ≤ now
      · rw [if_pos hdue] at h
        obtain ⟨rfl, rfl⟩ := Prod.mk.inj (Option.some.inj h)
        exact .expire (Decidable.not_not.mp hchanged) hdue
      · rw [if_neg hdue] at h
        cases h
  | ending rest o =>
    cases rest with
    | nil => simp only [hst, reduceCtorEq] at h
    | cons action rest =>
      simp only [hst, Option.some.injEq] at h
      obtain ⟨rfl, rfl⟩ := Prod.mk.inj h
      exact .act

end Acquire

end RpcTransport
