import RpcTransport.Proofs.Pool.Selection

/-!
# Whether there would be a wait

A pool tells whether an acquisition could have a connection now. It looks at the closed flag, the
free permits and the connections to share, and it takes nothing out of the slots for that. So it is
right when it says yes, and it may say no in two cases where there is a connection to be had, and in
no other (`Acquire.Selects.leased_iff`):

* a closed connection is still in the slots. An acquisition prunes first, and has a permit then;
* a connection is idle and the cap is zero. An acquisition does not look at the cap of an idle
  connection.

A deadline that the clock cannot tell is not looked at either.
-/

namespace RpcTransport

namespace Pool

variable {κ : Type} [Closable κ] {p : Pool κ}

theorem canAcquire_eq_true_iff : p.canAcquire = true ↔ p.closed = false ∧
    (0 < p.permits ∨ ∃ n ∈ p.openSlots, p.leasesOf n < p.config.maxLeases) := by
  have hshare : p.pickLeastLeased.isSome = true ↔
      ∃ n ∈ p.openSlots, p.leasesOf n < p.config.maxLeases := by
    rw [Option.isSome_iff_ne_none, ne_eq, pickLeastLeased_eq_none_iff]
    simp
  rw [canAcquire]
  cases p.closed with
  | true => simp
  | false =>
    rw [if_neg Bool.false_ne_true]
    split
    · next hpermit => exact iff_of_true rfl ⟨rfl, .inl hpermit⟩
    · next hpermit =>
      rw [hshare]
      exact ⟨fun h ↦ ⟨rfl, .inr h⟩, fun h ↦ h.2.resolve_left hpermit⟩

/-- There is a connection to be had although the pool may not say so: a permit comes free with a
closed one, or an idle one is not to be shared. -/
def Understated (p : Pool κ) : Prop :=
  ∃ n ∈ p.slots, p.isClosedAt n = true ∨ p.config.maxLeases = 0 ∧ p.leasesOf n = 0

end Pool

namespace Acquire

variable {κ : Type} [Closable κ] {a : Acquire} {p : Pool κ} {now : Nat} {c : κ}
  {r : Acquire × Pool κ}

theorem start_of_deadline {config : PoolConfig} {deadline : Nat}
    (h : Clock.after? now config.acquireTimeout = some deadline) :
    start config .standard now = ⟨false, false, deadline, none, .checking⟩ := by
  rw [start]
  simp only [AcquireOptions.standard, Option.getD_none, h]

theorem start_of_overflow {config : PoolConfig}
    (h : Clock.after? now config.acquireTimeout = none) :
    start config .standard now =
      (⟨false, false, now, none, .checking⟩ : Acquire).finish [] .overflow := by
  rw [start]
  simp only [AcquireOptions.standard, Option.getD_none, h]

theorem runAlone_ended (a : Acquire) (o : AcquireOutcome) (p : Pool κ) (c : κ) (now : Nat) :
    (a.finish [] o).runAlone now c p = (a.finish [] o, p) := by
  rw [runAlone, run_ended]
  rfl

theorem runAlone_closed (hstage : a.stage = .checking) (hclosed : p.closed = true) :
    a.runAlone now c p = (a.failWith .poolClosed, p) := by
  have hfail : a.step p now = some (a.failWith .poolClosed, p) := by
    simp [step, hstage, hclosed]
  have hrun : a.run now patience p = _ := run_of_step hfail 63
  rw [runAlone, hrun, failWith, run_ended]
  rfl

/-- An acquisition alone has a connection in the end if the pool says that it could, and in two
cases more. -/
theorem Selects.leased_iff (h : Selects now c a p r) (hopen : p.closed = false) :
    (∃ m, r.1.outcome? = some (.leased m)) ↔ p.canAcquire = true ∨ p.Understated := by
  rw [Pool.canAcquire_eq_true_iff]
  cases h with
  | @idle m hfirst hidle =>
    refine iff_of_true ⟨m, rfl⟩ ?_
    rcases Nat.eq_zero_or_pos p.config.maxLeases with hzero | hpos
    · exact .inr ⟨m, (Pool.mem_openSlots.mp hfirst.mem).1, .inr ⟨hzero, hidle⟩⟩
    · exact .inl ⟨hopen, .inr ⟨m, hfirst.mem, hidle ▸ hpos⟩⟩
  | create hbusy hpermit =>
    refine iff_of_true ⟨_, rfl⟩ ?_
    rcases Pool.permits_prune_pos_iff.mp hpermit with hfree | ⟨n, hn, hclosed⟩
    · exact .inl ⟨hopen, .inl hfree⟩
    · exact .inr ⟨n, hn, .inl hclosed⟩
  | @share m hfirst hfew => exact iff_of_true ⟨m, rfl⟩ (.inl ⟨hopen, .inr ⟨m, hfirst.mem, hfew⟩⟩)
  | denied hbusy hfull hpermit hb =>
    have hnone : ¬ (0 < p.permits ∨ ∃ n ∈ p.slots, p.isClosedAt n = true) := fun h ↦
      Nat.ne_of_gt (Pool.permits_prune_pos_iff.mpr h) hpermit
    refine iff_of_false ?_ ?_
    · rintro ⟨m, hm⟩
      exact hb.outcome?_ne m hm
    · rintro (⟨-, hfree | ⟨n, hn, hfew⟩⟩ | ⟨n, hn, hclosed | ⟨-, hidle⟩⟩)
      · exact hnone (.inl hfree)
      · exact Nat.not_lt_of_le (hfull n hn) hfew
      · exact hnone (.inr ⟨n, hn, hclosed⟩)
      · -- An idle connection in the slots is open here, and would have been taken.
        have hlisted : n ∈ p.openSlots := by
          rw [Pool.mem_openSlots, ← Bool.not_eq_true]
          exact ⟨hn, fun hclosed ↦ hnone (.inr ⟨n, hn, hclosed⟩)⟩
        exact Nat.ne_of_gt (hbusy n hlisted) hidle

end Acquire

namespace Pool

/-- **When there would be no wait.** An acquisition that nobody disturbs, with an answer of the
factory at its first attempt, has a connection at once in an open pool if the pool says that it
could, or if a closed connection is still in the slots, or if one is idle and the cap is zero, and
in no other case. Its deadline must be one that the clock can tell. -/
theorem canAcquire_iff {κ : Type} [Closable κ] (p : Pool κ) (c : κ) (now : Nat) :
    (∃ m, ((Acquire.start p.config .standard now).runAlone now c p).1.outcome? =
      some (.leased m)) ↔
    (Clock.after? now p.config.acquireTimeout).isSome = true ∧ p.closed = false ∧
      (p.canAcquire = true ∨ p.Understated) := by
  cases hdeadline : Clock.after? now p.config.acquireTimeout with
  | none =>
    rw [Acquire.start_of_overflow hdeadline, Acquire.runAlone_ended]
    refine iff_of_false ?_ ?_
    · rintro ⟨m, hm⟩
      cases hm
    · rintro ⟨htold, -⟩
      cases htold
  | some deadline =>
    rw [Acquire.start_of_deadline hdeadline]
    by_cases hclosed : p.closed = true
    · rw [Acquire.runAlone_closed rfl hclosed]
      refine iff_of_false ?_ ?_
      · rintro ⟨m, hm⟩
        cases hm
      · rintro ⟨-, hopen, -⟩
        rw [hclosed] at hopen
        cases hopen
    · rw [Bool.not_eq_true] at hclosed
      rw [(Acquire.runAlone_selects now c rfl hclosed rfl).leased_iff hclosed]
      simp [hclosed]

/-! ## Where it is wrong -/

/-- The task has nothing left to do. -/
def Task.isDone : Task → Bool
  | acquire a => a.outcome?.isSome
  | chores rest => rest.isEmpty
  | closing | draining => false

namespace System

/-- The pool says that there is no connection to be had, and nobody is at work, but an acquisition
has one at once. -/
def Denies (s : System Connection) : Prop :=
  (∀ k ∈ s.tasks, k.isDone = true) ∧ s.pool.canAcquire = false ∧
    ∃ c m, ((Acquire.start s.pool.config .standard 0).runAlone 0 c s.pool).1.outcome? =
      some (.leased m)

theorem denies_closed_and_idle :
    (∃ s, Relation.ReflTransGen Step
        (start Connection { PoolConfig.standard with maxSize := 1 } "target" 0) s ∧ s.Denies) ∧
      ∃ s, Relation.ReflTransGen Step
        (start Connection { PoolConfig.standard with maxSize := 1, maxLeases := 0 } "target" 0) s ∧
          s.Denies := by
  let c : Connection := .start ⟨"connection", "target", .client, 1⟩ .standard .standard
    (.ofConfig .standard 1 .standard)
  constructor
  · have h₁ := Relation.ReflTransGen.single (Step.acquire .standard 0
      (start Connection { PoolConfig.standard with maxSize := 1 } "target" 0))
    have h₂ := h₁.trans (reachable_run 0 0 6 rfl)
    have h₃ := h₂.tail (.move 0 rfl (.acquire (.connected rfl c _)))
    have h₄ := h₃.trans (reachable_run 0 0 5 rfl)
    have h₅ := h₄.tail (.evolve 0 (Closable.close "gone")
      (fun c _ ↦ LawfulClosable.isClosed_close "gone" c) _)
    exact ⟨_, h₅, by decide, rfl, c, 1, rfl⟩
  · have h₁ := Relation.ReflTransGen.single (Step.acquire .standard 0
      (start Connection { PoolConfig.standard with maxSize := 1, maxLeases := 0 } "target" 0))
    have h₂ := h₁.trans (reachable_run 0 0 6 rfl)
    have h₃ := h₂.tail (.move 0 rfl (.acquire (.connected rfl c _)))
    have h₄ := h₃.trans (reachable_run 0 0 5 rfl)
    have h₅ := h₄.tail (.release 0 _)
    have h₆ := h₅.tail (.move 1 rfl (.chore _ _ _))
    have h₇ := h₆.tail (.move 1 rfl (.chore _ _ _))
    exact ⟨_, h₇, by decide, rfl, c, 0, rfl⟩

end System

end Pool

end RpcTransport
