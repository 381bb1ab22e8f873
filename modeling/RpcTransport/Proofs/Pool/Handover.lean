import RpcTransport.Proofs.Pool.LeastLeased
import RpcTransport.Proofs.Pool.Ownership

/-!
# What is handed over

A caller is handed a connection in one step of its acquisition: it picks one from the slots, or it
puts one there that was made for it. A pick looks whether the connection is closed. The entry of a
new one does not; it only looks whether the pool is.

## Failing in hand

Between its making and its entry a connection is with one caller and nowhere else, so nobody in the
pool closes it. But it may close on its own account, or be closed when it is made
(`System.FailsInHand`), and then it is handed over all the same. That is the only way to get a
connection that is closed already (`System.Hands.open_or_failed`).
-/

namespace RpcTransport

/-! ## Steps that hand over -/

namespace Acquire

variable {κ : Type} [Closable κ] {a a' : Acquire} {p p' : Pool κ} {m : Nat}

/-- The connection with which the acquisition ends, or has ended, after its next step. -/
def gift? (a : Acquire) (p : Pool κ) : Option Nat :=
  match a.stage with
  | .choosing _ => p.pickIdle
  | .sharing _ => p.pickLeastLeased
  | .adopting m => if p.closed then none else some m
  | st => st.given?

theorem given?_step {now : Nat} (h : a.step p now = some (a', p')) :
    a'.stage.given? = a.gift? p := by
  obtain ⟨lastAttempt, eager, deadline, inFlightDeadline, stage⟩ := a
  cases does_of_step h with
  | pick hpick | busy hpick =>
    rw [p.pickIdle_prune] at hpick
    exact hpick.symm
  | share hpick | noShare hpick => exact hpick.symm
  | adopt hopen =>
    rw [gift?, hopen]
    cases eager with
    | _ => rfl
  | reject hclosed =>
    rw [gift?, hclosed]
    rfl
  | giveUp ho =>
    rcases ho with rfl | rfl
    · rfl
    · rfl
  | @act action rest o =>
    cases o with
    | _ => rfl
  | refuse | check | listen | reserve | forgo | noPermit | enter | attempt | resume | hold | wait
  | again | expire => rfl

omit [Closable κ] in
/-- Who is refused a connection has none. -/
theorem refused_stage {made generation : Nat} (hst : a.stage = .connecting made generation)
    (p : Pool κ) (now : Nat) (e : TransportError) :
    (a.refused p now e).stage.given? = none ∧ (a.refused p now e).stage.inHand = [] := by
  rw [refused]
  simp only [hst]
  split
  · exact ⟨rfl, rfl⟩
  · exact ⟨rfl, rfl⟩

/-- Who loses interest has no connection. -/
theorem abort_stage (h : a.abort = some a') : a'.stage.given? = none ∧ a'.stage.inHand = [] := by
  rw [abort] at h
  split at h
  all_goals
    cases h <;>
    exact ⟨rfl, rfl⟩

/-- **A connection is picked, open, from the slots, or it is one that was made for the caller.** -/
theorem Moves.given?_cases (h : a.Moves p a' p') (hm : a'.stage.given? = some m) :
    a.stage.given? = some m ∨ (a.stage.picks = true ∧ m ∈ p.openSlots) ∨ a.stage = .adopting m := by
  cases h with
  | step h =>
    rw [given?_step h, gift?] at hm
    split at hm
    · next hst =>
      rw [hst]
      exact .inr (.inl ⟨rfl, (Pool.pickIdle_eq_some_iff.mp hm).1.mem⟩)
    · next hst =>
      rw [hst]
      exact .inr (.inl ⟨rfl, (Pool.pickLeastLeased_eq_some_iff.mp hm).1.mem⟩)
    · next n hst =>
      split at hm
      · cases hm
      · obtain rfl := Option.some.inj hm
        exact .inr (.inr hst)
    · exact .inl hm
  | connected => cases hm
  | refused hst now e =>
    rw [(refused_stage hst p now e).1] at hm
    cases hm
  | abort h =>
    rw [(abort_stage h).1] at hm
    cases hm

/-- A connection in hand was in hand before, or the factory has just made it. -/
theorem Moves.inHand_cases (h : a.Moves p a' p') (hm : m ∈ a'.stage.inHand) :
    m ∈ a.stage.inHand ∨ ∃ made generation c, a.stage = .connecting made generation ∧
      (a', p') = a.connected p c ∧ m = p.members.length := by
  cases h with
  | step h =>
    refine .inl ?_
    have hdoes := does_of_step h
    generalize a.stage = st at hdoes ⊢
    cases hdoes with
    | hold => exact hm
    | giveUp ho =>
      rcases ho with rfl | rfl
      · cases hm
      · cases hm
    | _ => cases hm
  | connected hst c => exact .inr ⟨_, _, c, hst, rfl, List.mem_singleton.mp hm⟩
  | refused hst now e =>
    rw [(refused_stage hst p now e).2] at hm
    cases hm
  | abort h =>
    rw [(abort_stage h).2] at hm
    cases hm

end Acquire

namespace Pool

namespace System

variable {κ : Type} [Closable κ] {s s' : System κ} {m : Nat}

/-! ## Failures in hand -/

/-- A connection that a caller has in hand closes, and nobody in the pool closes it: the factory
has made one that is closed, or one that was open closes on its own account. -/
inductive FailsInHand (i m : Nat) : System κ → System κ → Prop where
  | made {s : System κ} {a : Acquire} {made generation : Nat} {c : κ}
      (hi : s.tasks[i]? = some (.acquire a)) (hst : a.stage = .connecting made generation)
      (hm : m = s.pool.members.length) (hc : Closable.isClosed c = true) :
      FailsInHand i m s
        ⟨(a.connected s.pool c).2, s.tasks.set i (.acquire (a.connected s.pool c).1)⟩
  | evolve {s : System κ} {a : Acquire} {f : κ → κ} (hi : s.tasks[i]? = some (.acquire a))
      (hm : m ∈ a.stage.inHand) (hopen : s.pool.isClosedAt m = false)
      (hf : ∀ c, Closable.isClosed c = true → Closable.isClosed (f c) = true)
      (hclosed : (s.pool.modifyMember m fun x ↦
        { x with connection := f x.connection }).isClosedAt m = true) :
      FailsInHand i m s
        ⟨s.pool.modifyMember m fun x ↦ { x with connection := f x.connection }, s.tasks⟩

theorem FailsInHand.step {i : Nat} (h : FailsInHand i m s s') : Step s s' := by
  cases h with
  | made hi hst => exact .move i hi (.acquire (.connected hst _ _))
  | evolve _ _ _ hf => exact .evolve m _ hf s

/-- In the run from one state to another, a connection that a caller had in hand has failed. -/
def HasFailed (s₀ : System κ) (i m : Nat) (s : System κ) : Prop :=
  ∃ v v', Relation.ReflTransGen Step s₀ v ∧ FailsInHand i m v v' ∧ Relation.ReflTransGen Step v' s

theorem HasFailed.tail {s₀ : System κ} {i : Nat} (h : HasFailed s₀ i m s) (hstep : Step s s') :
    HasFailed s₀ i m s' := by
  obtain ⟨v, v', hv, hfails, hv'⟩ := h
  exact ⟨v, v', hv, hfails, hv'.tail hstep⟩

theorem mem_inHand_of_append {ks : List Task} {k : Task} (hk : k.charge = []) {i : Nat}
    {a : Acquire} (hi : (ks ++ [k])[i]? = some (.acquire a)) (hm : m ∈ a.stage.inHand) :
    ks[i]? = some (.acquire a) := by
  rw [List.getElem?_append] at hi
  split at hi
  · exact hi
  · have hnew : Task.acquire a = k := by
      simpa using List.mem_of_getElem? hi
    rw [← hnew] at hk
    have hcharge : m ∈ (Task.acquire a).charge := List.mem_append_left _ hm
    rw [hk] at hcharge
    cases hcharge

theorem mem_charge_of_closes {k : Task} (h : m ∈ closes k.rest) : m ∈ k.charge := by
  cases k with
  | acquire a => exact List.mem_append_right _ h
  | chores rest => exact h
  | closing | draining => cases h

/-- A move of its own does not close a connection in hand. -/
theorem failsInHand_or_of_move {i : Nat} {k : Task} {a' : Acquire} {p : Pool κ}
    (hi : s.tasks[i]? = some k) (h : Moves k s.pool (.acquire a') p) (hm : m ∈ a'.stage.inHand)
    (hclosed : p.isClosedAt m = true) :
    FailsInHand i m s ⟨p, s.tasks.set i (.acquire a')⟩ ∨ ∃ a, s.tasks[i]? = some (.acquire a) ∧
      m ∈ a.stage.inHand ∧ s.pool.isClosedAt m = true := by
  cases h with
  | @acquire a _ _ _ hmoves =>
    rcases hmoves.inHand_cases hm with hbefore | ⟨made, generation, c, hst, heq, hlast⟩
    · refine .inr ⟨a, hi, hbefore, ?_⟩
      by_contra hopen
      rw [Bool.not_eq_true] at hopen
      -- Who has a connection in hand has nothing left to close.
      have hcloses := (Acquire.passes_of_moves hmoves).mem_closes hopen hclosed
      generalize a.stage = st at hbefore hcloses
      cases st with
      | ending => cases hbefore
      | _ => cases hcloses
    · obtain ⟨rfl, rfl⟩ := Prod.mk.inj heq
      refine .inl (.made hi hst hlast ?_)
      subst hlast
      simpa [Acquire.connected, addMember, isClosedAt] using hclosed

/-- **Only a connection that fails in hand is in hand and closed.** -/
theorem Step.failsInHand_or (h : Step s s') (hs : s.Owned) {i : Nat} {a' : Acquire}
    (hi : s'.tasks[i]? = some (.acquire a')) (hm : m ∈ a'.stage.inHand)
    (hclosed : s'.pool.isClosedAt m = true) :
    FailsInHand i m s s' ∨ ∃ a, s.tasks[i]? = some (.acquire a) ∧ m ∈ a.stage.inHand ∧
      s.pool.isClosedAt m = true := by
  cases h with
  | acquire options now =>
    have hnew := (Task.New.acquire s.pool.config options now).charge_eq
    exact .inr ⟨a', mem_inHand_of_append hnew hi hm, hm, hclosed⟩
  | release n =>
    exact .inr ⟨a', mem_inHand_of_append (Task.New.release n).charge_eq hi hm, hm, hclosed⟩
  | closeAll =>
    exact .inr ⟨a', mem_inHand_of_append Task.New.closeAll.charge_eq hi hm, hm, hclosed⟩
  | wake =>
    exact .inr ⟨a', mem_inHand_of_append Task.New.wake.charge_eq hi hm, hm, hclosed⟩
  | evolve n f hf =>
    cases hbefore : s.pool.isClosedAt m with
    | true => exact .inr ⟨a', hi, hm, rfl⟩
    | false =>
      by_cases hn : n = m
      · subst hn
        exact .inl (.evolve hi hm hbefore hf hclosed)
      · rw [isClosedAt_modifyMember_ne hn, hbefore] at hclosed
        cases hclosed
  | @move j k k' p _ hj hmoves =>
    by_cases hij : j = i
    · subst hij
      rw [List.getElem?_set_self (List.getElem?_eq_some_iff.mp hj).1] at hi
      cases hi
      exact failsInHand_or_of_move hj hmoves hm hclosed
    · rw [List.getElem?_set_ne hij] at hi
      refine .inr ⟨a', hi, hm, ?_⟩
      by_contra hopen
      rw [Bool.not_eq_true] at hopen
      have hcharge := mem_charge_of_closes (hmoves.mem_closes hopen hclosed)
      exact hij (hs.eq_of_mem_charge hj hi hcharge (List.mem_append_left _ hm))

section

variable {config : PoolConfig} {target : String} {now i : Nat} {a : Acquire}

theorem hasFailed_of_reachable (h : Relation.ReflTransGen Step (start κ config target now) s)
    (hi : s.tasks[i]? = some (.acquire a)) (hm : m ∈ a.stage.inHand)
    (hclosed : s.pool.isClosedAt m = true) : HasFailed (start κ config target now) i m s := by
  induction h generalizing a with
  | refl =>
    have hmem := List.mem_of_getElem? hi
    rw [start] at hmem
    split at hmem
    · cases List.mem_singleton.mp hmem
      cases hm
    · cases hmem
  | @tail u s hu hstep ih =>
    rcases hstep.failsInHand_or (owned_of_reachable hu) hi hm hclosed with hfails | ⟨b, hb, hbefore⟩
    · exact ⟨u, s, hu, hfails, .refl⟩
    · exact (ih hb hbefore.1 hbefore.2).tail hstep

/-! ## Handing over -/

/-- A step that hands a connection to the caller of an acquisition. -/
structure Hands (i m : Nat) (s s' : System κ) : Prop where
  step : Step s s'
  before : ¬ s.Gives i m
  after : s'.Gives i m

/-- A connection is handed over as a pick from the slots, which is open, or as one that was made for
the caller. -/
theorem Hands.cases (h : Hands i m s s') : ∃ a, s.tasks[i]? = some (.acquire a) ∧
    (a.stage.picks = true ∧ m ∈ s.pool.slots ∧ s.pool.isClosedAt m = false ∨
      a.stage = .adopting m) := by
  obtain ⟨a', hi, hm⟩ := h.after
  obtain ⟨_, hcases⟩ := h.step.task_cases
  rcases hcases i with hsame | ⟨-, k, l, hk, hl, hmoves⟩ | ⟨-, l, hl, hnew⟩
  · exact absurd ⟨a', hsame.symm.trans hi, hm⟩ h.before
  · cases hl.symm.trans hi
    cases hmoves with
    | @acquire a _ _ _ hmoves =>
      refine ⟨a, hk, ?_⟩
      rcases hmoves.given?_cases hm with hgiven | ⟨hpicks, hopen⟩ | hst
      · exact absurd ⟨a, hk, hgiven⟩ h.before
      · exact .inl ⟨hpicks, mem_openSlots.mp hopen⟩
      · exact .inr hst
  · cases hl.symm.trans hi
    cases hnew with
    | acquire config options now =>
      rcases Acquire.start_stage config options now with hst | hst
      all_goals
        rw [hst] at hm
        cases hm

omit [Closable κ] in
theorem not_gives_start (i m : Nat) : ¬ (start κ config target now).Gives i m := by
  rintro ⟨a, hi, hm⟩
  have hmem := List.mem_of_getElem? hi
  rw [start] at hmem
  split at hmem
  · cases List.mem_singleton.mp hmem
    cases hm
  · cases hmem

theorem given?_of_outcome? (h : a.outcome? = some (.leased m)) : a.stage.given? = some m := by
  rw [Acquire.outcome?] at h
  split at h
  · next hst =>
    obtain rfl := Option.some.inj h
    rw [hst]
    rfl
  · cases h

/-- What somebody has in the end was handed over in some step. -/
theorem exists_hands {s₀ : System κ} (h : Relation.ReflTransGen Step s₀ s)
    (hstart : ¬ s₀.Gives i m) (hgives : s.Gives i m) :
    ∃ u u', Relation.ReflTransGen Step s₀ u ∧ Hands i m u u' ∧ Relation.ReflTransGen Step u' s := by
  induction h with
  | refl => exact absurd hgives hstart
  | @tail u s hu hstep ih =>
    by_cases hbefore : u.Gives i m
    · obtain ⟨v, v', hv, hhands, hv'⟩ := ih hbefore
      exact ⟨v, v', hv, hhands, hv'.tail hstep⟩
    · exact ⟨u, s, hu, ⟨hstep, hbefore, hgives⟩, .refl⟩

/-- **What is handed over is open, or has failed in hand.** -/
theorem Hands.open_or_failed (h : Hands i m s s')
    (hs : Relation.ReflTransGen Step (start κ config target now) s) :
    ∃ a, s.tasks[i]? = some (.acquire a) ∧
      (a.stage.picks = true ∧ m ∈ s.pool.slots ∧ s.pool.isClosedAt m = false ∨
        a.stage = .adopting m ∧ (s.pool.isClosedAt m = false ∨
          HasFailed (start κ config target now) i m s)) := by
  obtain ⟨a, hi, hcases⟩ := h.cases
  refine ⟨a, hi, hcases.imp_right fun hst ↦ ⟨hst, ?_⟩⟩
  by_cases hclosed : s.pool.isClosedAt m = true
  · have hm : m ∈ a.stage.inHand := by
      rw [hst]
      exact List.mem_singleton_self m
    exact .inr (hasFailed_of_reachable hs hi hm hclosed)
  · exact .inl (Bool.eq_false_iff.mpr hclosed)

/-- **An acquisition that returns a connection was handed it in one step of the run.** If it picked
it from the slots, idle or to share, it was open then. If it brought it into the pool, it was open,
or it had failed in hand: the factory had made it closed, or it had closed on its own account since;
nobody in the pool had closed it. -/
theorem handed_over_open (h : Relation.ReflTransGen Step (start κ config target now) s)
    (hi : s.tasks[i]? = some (.acquire a)) (hreturned : a.outcome? = some (.leased m)) :
    ∃ u u', Relation.ReflTransGen Step (start κ config target now) u ∧ Hands i m u u' ∧
      Relation.ReflTransGen Step u' s ∧ ∃ b, u.tasks[i]? = some (.acquire b) ∧
        (b.stage.picks = true ∧ m ∈ u.pool.slots ∧ u.pool.isClosedAt m = false ∨
          b.stage = .adopting m ∧ (u.pool.isClosedAt m = false ∨
            HasFailed (start κ config target now) i m u)) := by
  have hgives : s.Gives i m := ⟨a, hi, given?_of_outcome? hreturned⟩
  obtain ⟨u, u', hu, hhands, hu'⟩ := exists_hands h (not_gives_start i m) hgives
  exact ⟨u, u', hu, hhands, hu', hhands.open_or_failed hu⟩

end

/-- The first caller of a pool for one connection has it made, and is handed it. -/
theorem handed_over_open_made :
    ∃ (s u u' : System Connection) (a : Acquire),
      Relation.ReflTransGen Step
        (start Connection { PoolConfig.standard with maxSize := 1 } "target" 0) s ∧
      s.tasks[0]? = some (.acquire a) ∧ a.outcome? = some (.leased 0) ∧
      Hands 0 0 u u' ∧ Relation.ReflTransGen Step u' s := by
  let c : Connection := .start ⟨"connection", "target", .client, 1⟩ .standard .standard
    (.ofConfig .standard 1 .standard)
  have h₁ := Relation.ReflTransGen.single (Step.acquire .standard 0
    (start Connection { PoolConfig.standard with maxSize := 1 } "target" 0))
  have h₂ := h₁.trans (reachable_run 0 0 6 rfl)
  have h₃ := h₂.tail (.move 0 rfl (.acquire (.connected rfl c _)))
  have h₄ := h₃.trans (reachable_run 0 0 5 rfl)
  obtain ⟨s, a, hs, hi, hreturned⟩ : ∃ (s : System Connection) (a : Acquire),
      Relation.ReflTransGen Step
        (start Connection { PoolConfig.standard with maxSize := 1 } "target" 0) s ∧
      s.tasks[0]? = some (.acquire a) ∧ a.outcome? = some (.leased 0) := ⟨_, _, h₄, rfl, rfl⟩
  obtain ⟨u, u', -, hhands, hu', -⟩ := handed_over_open hs hi hreturned
  exact ⟨s, u, u', a, hs, hi, hreturned, hhands, hu'⟩

/-- **A connection that is closed already may be handed over.** The peer of a connection closes it
after it was made and before the caller brings it into the pool. -/
theorem closed_connection_handed_over :
    ∃ (u u' s : System Connection) (a : Acquire),
      Relation.ReflTransGen Step
        (start Connection { PoolConfig.standard with maxSize := 1 } "target" 0) u ∧
      Hands 0 0 u u' ∧ u.pool.isClosedAt 0 = true ∧ Relation.ReflTransGen Step u' s ∧
      s.tasks[0]? = some (.acquire a) ∧ a.outcome? = some (.leased 0) := by
  let c : Connection := .start ⟨"connection", "target", .client, 1⟩ .standard .standard
    (.ofConfig .standard 1 .standard)
  have h₁ := Relation.ReflTransGen.single (Step.acquire .standard 0
    (start Connection { PoolConfig.standard with maxSize := 1 } "target" 0))
  have h₂ := h₁.trans (reachable_run 0 0 6 rfl)
  have h₃ := h₂.tail (.move 0 rfl (.acquire (.connected rfl c _)))
  have h₄ := h₃.tail (.evolve 0 (Closable.close "closed by peer")
    (fun c _ ↦ LawfulClosable.isClosed_close _ c) _)
  have h₅ := h₄.trans (reachable_run 0 0 1 rfl)
  refine ⟨_, _, _, _, h₅, ⟨.act 0 0 rfl rfl, ?_, _, rfl, rfl⟩, rfl, reachable_run 0 0 3 rfl, rfl,
    rfl⟩
  rintro ⟨a, hi, hm⟩
  cases hi
  cases hm

end System

end Pool

end RpcTransport
