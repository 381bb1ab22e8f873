import RpcTransport.Proofs.Pool.Capacity

/-!
# What a closing leaves behind

The closed flag is set before the slots are taken, and whoever puts a connection into the slots
looks at the flag again where they are locked. So once a closing has taken the slots there are none
any more (`System.Drained`), and who looks there for a connection finds none.

## Who acts late

An acquisition that has looked at the flag before it was set goes on as if nothing had happened: it
may reserve a permit and have a connection made. But that connection still has to enter the slots,
and there the acquisition fails, and closes it (`Acquire.Moves.late`). So one that is given a
connection had picked it before the slots were taken (`System.Gives`).

## Who has permits

Only who sets the flag takes the slots, and it is set once. So a single task has permits of slots in
hand (`System.Single`), and when it is done, and no creation is under way, all permits are free. An
open connection goes with a permit that is not; so there is none (`System.Drained.nothing_left`).
-/

namespace RpcTransport

open Pool (Action)

theorem Pool.slots_perform_of_empty {κ : Type} [Closable κ] {p : Pool κ} (h : p.slots = [])
    (action : Action) : (p.perform action).slots = [] := by
  cases action with
  | prune =>
    change p.slots.filter _ = []
    rw [h, List.filter_nil]
  | dropLease | notify | leaveCreation | returnPermit | close | watch => exact h

/-! ## Acquisitions and a closed pool -/

namespace AcquireStage

/-- The connection that an acquisition ends with. -/
def given? : AcquireStage → Option Nat
  | .ending _ (.leased m) | .ending _ (.made m) => some m
  | _ => none

/-- A connection was made and is not in the pool, or the pool was closed before it came in. -/
inductive Late : AcquireStage → Prop where
  | holding (m : Nat) : Late (.holding m)
  | adopting (m : Nat) : Late (.adopting m)
  | ending (rest : List Action) : Late (.ending rest (.failed .poolClosed))

end AcquireStage

namespace Acquire

variable {κ : Type} [Closable κ] {a a' : Acquire} {p p' : Pool κ}

/-- **Nothing comes into a closed pool, and nobody is given what is not there.** -/
theorem step_of_empty {now : Nat} (h : a.step p now = some (a', p')) (hclosed : p.closed = true)
    (hempty : p.slots = []) :
    p'.slots = [] ∧ (a'.stage.given? = none ∨ a'.stage.given? = a.stage.given?) := by
  have hpruned : p.prune.slots = [] := by simp [Pool.prune, hempty]
  obtain ⟨lastAttempt, eager, deadline, inFlightDeadline, stage⟩ := a
  cases does_of_step h with
  | check hopen | adopt hopen => exact absurd hclosed (Bool.eq_false_iff.mp hopen)
  | pick hpick =>
    have hnone : p.prune.pickIdle = none := by simp [Pool.pickIdle, hpruned]
    cases hnone.symm.trans hpick
  | share hpick =>
    have hnone : p.pickLeastLeased = none := by
      rw [Pool.pickLeastLeased, hempty]
      rfl
    cases hnone.symm.trans hpick
  | busy => exact ⟨hpruned, .inl rfl⟩
  | hold =>
    refine ⟨?_, .inl rfl⟩
    split
    · exact hempty
    · exact hempty
  | giveUp ho =>
    rcases ho with rfl | rfl
    · exact ⟨hempty, .inl rfl⟩
    · exact ⟨hempty, .inl rfl⟩
  | @act action rest o =>
    refine ⟨Pool.slots_perform_of_empty hempty action, .inr ?_⟩
    cases o with
    | _ => rfl
  | refuse | listen | reserve | forgo | noPermit | enter | attempt | resume | reject | noShare
  | wait | again | expire => exact ⟨hempty, .inl rfl⟩

/-- An acquisition into a closed pool fails. -/
theorem step_of_closed {now m : Nat} (h : a.step p now = some (a', p')) (hclosed : p.closed = true)
    (hst : a.stage = .adopting m) : a'.stage = .ending (a.unadopted m) (.failed .poolClosed) := by
  have hdoes := does_of_step h
  rw [hst] at hdoes
  cases hdoes with
  | adopt hopen => exact absurd hclosed (Bool.eq_false_iff.mp hopen)
  | reject => rfl

theorem Moves.of_empty (h : a.Moves p a' p') (hclosed : p.closed = true) (hempty : p.slots = []) :
    p'.slots = [] ∧ (a'.stage.given? = none ∨ a'.stage.given? = a.stage.given?) := by
  cases h with
  | step h => exact step_of_empty h hclosed hempty
  | connected => exact ⟨hempty, .inl rfl⟩
  | refused hst now e =>
    refine ⟨hempty, .inl ?_⟩
    rw [Acquire.refused]
    simp only [hst]
    split
    · rfl
    · rfl
  | abort h =>
    refine ⟨hempty, .inl ?_⟩
    rw [Acquire.abort] at h
    split at h
    · obtain rfl := Option.some.inj h
      rfl
    · obtain rfl := Option.some.inj h
      rfl
    · obtain rfl := Option.some.inj h
      rfl
    · cases h

/-- **A connection that was made too late is refused.** -/
theorem Moves.late (h : a.Moves p a' p') (hclosed : p.closed = true) (hlate : a.stage.Late) :
    a'.stage.Late := by
  cases h with
  | step h =>
    have hpasses := passes_of_step h
    generalize hst : a.stage = st at hlate hpasses
    cases hlate with
    | holding m =>
      generalize a'.stage = st' at hpasses ⊢
      cases hpasses with
      | lend | keep => exact .adopting m
      | quit hst | abandon hst => simp at hst
    | adopting m =>
      rw [step_of_closed h hclosed hst]
      exact .ending _
    | ending rest =>
      generalize a'.stage = st' at hpasses ⊢
      cases hpasses with
      | act => exact .ending _
      | quit hst | abandon hst => simp at hst
  | connected hst | refused hst =>
    rw [hst] at hlate
    exact nomatch hlate
  | abort h =>
    -- Who holds a connection does not wait, and cannot lose interest.
    rw [Acquire.abort] at h
    generalize a.stage = st at h hlate
    cases hlate with
    | holding | adopting | ending => cases h

end Acquire

namespace Pool

variable {κ : Type} [Closable κ]

/-! ## Tasks -/

namespace Task

/-- The task takes the slots, or has their permits in hand. -/
def Drains (k : Task) : Prop := k = .draining ∨ 0 < k.drained

/-- The task has returned from a creation, if it was at one. -/
def HasCreated : Task → Prop
  | acquire a => a.stage.creating = 0 ∧ a.stage.rest = []
  | _ => True

instance : DecidablePred HasCreated
  | acquire _ => inferInstanceAs (Decidable (_ ∧ _))
  | chores _ | closing | draining => .isTrue trivial

/-- A task that has just come in. -/
inductive New : Task → Prop where
  | acquire (config : PoolConfig) (options : AcquireOptions) (now : Nat) :
      New (.acquire (.start config options now))
  | release (m : Nat) : New (.chores (releaseActions m))
  | closeAll : New .closing
  | wake : New (.chores closedActions)

theorem New.not_drains {k : Task} (h : k.New) : ¬ k.Drains := by
  cases h with
  | acquire | release | closeAll | wake => simp [Drains, drained, releaseActions, closedActions]

end Task

namespace Moves

variable {k k' : Task} {p p' : Pool κ}

/-- Only who sets the flag goes on to take the slots. -/
theorem drains_or (h : Moves k p k' p') (hk : k'.Drains) : k.Drains ∨ p.closed = false := by
  cases h with
  | acquire => simp [Task.Drains, Task.drained] at hk
  | chore action rest =>
    rcases hk with hk | hk
    · cases hk
    · exact .inl (.inr (Nat.lt_of_lt_of_le hk List.count_le_count_cons))
  | close h => exact .inr h
  | closeNone => simp [Task.Drains, Task.drained] at hk
  | drain => exact .inl (.inl rfl)

theorem slots_of_empty (h : Moves k p k' p') (hclosed : p.closed = true) (hempty : p.slots = []) :
    p'.slots = [] := by
  cases h with
  | acquire h => exact (h.of_empty hclosed hempty).1
  | chore action => exact slots_perform_of_empty hempty action
  | close | closeNone => exact hempty
  | drain => rfl

end Moves

namespace System

variable {s s' : System κ} {size i : Nat}

/-- One task at the most makes a move in a step; another stays, or has just come in. -/
theorem Step.task_cases (h : Step s s') : ∃ i : Nat, ∀ j : Nat,
    s'.tasks[j]? = s.tasks[j]? ∨
    (j = i ∧ ∃ k k', s.tasks[j]? = some k ∧ s'.tasks[j]? = some k' ∧ Moves k s.pool k' s'.pool) ∨
    (s.tasks[j]? = none ∧ ∃ k', s'.tasks[j]? = some k' ∧ Task.New k') := by
  have hnew {k : Task} (hk : k.New) (j : Nat) : (s.tasks ++ [k])[j]? = s.tasks[j]? ∨
      (s.tasks[j]? = none ∧ ∃ k', (s.tasks ++ [k])[j]? = some k' ∧ Task.New k') := by
    rw [List.getElem?_append]
    split
    · exact .inl rfl
    · next hle =>
      rw [List.getElem?_eq_none (Nat.le_of_not_lt hle), List.getElem?_singleton]
      split
      · exact .inr ⟨rfl, k, rfl, hk⟩
      · exact .inl rfl
  cases h with
  | acquire options now =>
    exact ⟨0, fun j ↦ (hnew (.acquire s.pool.config options now) j).imp_right .inr⟩
  | release m => exact ⟨0, fun j ↦ (hnew (.release m) j).imp_right .inr⟩
  | closeAll => exact ⟨0, fun j ↦ (hnew .closeAll j).imp_right .inr⟩
  | wake => exact ⟨0, fun j ↦ (hnew .wake j).imp_right .inr⟩
  | evolve => exact ⟨0, fun j ↦ .inl rfl⟩
  | @move i k k' p _ hi hmoves =>
    refine ⟨i, fun j ↦ ?_⟩
    by_cases hj : i = j
    · subst hj
      have hlt := (List.getElem?_eq_some_iff.mp hi).1
      exact .inr (.inl ⟨rfl, k, k', hi, List.getElem?_set_self hlt, hmoves⟩)
    · exact .inl (List.getElem?_set_ne hj)

theorem Step.closed_of_closed (h : Step s s') (hclosed : s.pool.closed = true) :
    s'.pool.closed = true := by
  cases h with
  | move _ _ hmoves => exact hmoves.closed_of_closed hclosed
  | acquire | release | closeAll | wake | evolve => exact hclosed

theorem Step.slots_of_empty (h : Step s s') (hclosed : s.pool.closed = true)
    (hempty : s.pool.slots = []) : s'.pool.slots = [] := by
  cases h with
  | move _ _ hmoves => exact hmoves.slots_of_empty hclosed hempty
  | acquire | release | closeAll | wake | evolve => exact hempty

/-! ## Who takes the slots -/

/-- All that drains the pool is one task. -/
def Single (s : System κ) : Prop := ∃ i : Nat, ∀ (j : Nat) (k : Task),
  s.tasks[j]? = some k → k.Drains → j = i

/-- Once the flag is set, nobody begins to take the slots. -/
theorem Step.drains (h : Step s s') (hclosed : s.pool.closed = true) {j : Nat} {k' : Task}
    (hj : s'.tasks[j]? = some k') (hk' : k'.Drains) :
    ∃ k : Task, s.tasks[j]? = some k ∧ k.Drains := by
  obtain ⟨i, hcases⟩ := h.task_cases
  rcases hcases j with hsame | ⟨-, k, l, hk, hl, hmoves⟩ | ⟨-, l, hl, hnew⟩
  · exact ⟨k', hsame ▸ hj, hk'⟩
  · obtain rfl := Option.some.inj (hj.symm.trans hl)
    refine ⟨k, hk, (hmoves.drains_or hk').resolve_right ?_⟩
    simp [hclosed]
  · obtain rfl := Option.some.inj (hj.symm.trans hl)
    exact absurd hk' hnew.not_drains

theorem Step.single (h : Step s s') (hs : s.Balanced size) (hsingle : s.Single) : s'.Single := by
  by_cases hclosed : s.pool.closed = true
  · obtain ⟨i, hi⟩ := hsingle
    refine ⟨i, fun j k' hj hk' ↦ ?_⟩
    obtain ⟨k, hj, hk⟩ := h.drains hclosed hj hk'
    exact hi j k hj hk
  · -- Nobody drains the pool yet, so it can only be who moves.
    obtain ⟨i, hcases⟩ := h.task_cases
    refine ⟨i, fun j k' hj hk' ↦ ?_⟩
    rcases hcases j with hsame | ⟨rfl, -⟩ | ⟨-, l, hl, hnew⟩
    · have hmem : k' ∈ s.tasks := List.mem_of_getElem? (hsame.symm.trans hj)
      obtain ⟨hdraining, hdrained⟩ := hs.undrained (Bool.eq_false_iff.mpr hclosed) k' hmem
      rcases hk' with hk' | hk'
      · exact absurd hk' hdraining
      · exact absurd hdrained (Nat.ne_of_gt hk')
    · rfl
    · obtain rfl := Option.some.inj (hj.symm.trans hl)
      exact absurd hk' hnew.not_drains

/-- The closing that has set the flag takes the slots. -/
def drainBy (s : System κ) (i : Nat) : System κ :=
  ⟨s.pool.drain.2, s.tasks.set i (.chores (drainedActions s.pool.slots))⟩

theorem Step.drain (hi : s.tasks[i]? = some .draining) : Step s (s.drainBy i) :=
  .move i hi (.drain s.pool)

/-- The slots were taken, and it is task `i` that did. -/
structure Drained (i : Nat) (s : System κ) : Prop where
  closed : s.pool.closed = true
  slots_eq : s.pool.slots = []
  alone : ∀ (j : Nat) (k : Task), s.tasks[j]? = some k → k.Drains → j = i

theorem Single.drained (hsingle : s.Single) (hs : s.Balanced size)
    (hi : s.tasks[i]? = some .draining) : Drained i (s.drainBy i) where
  closed := by
    by_contra hopen
    have hmem : Task.draining ∈ s.tasks := List.mem_of_getElem? hi
    exact (hs.undrained (Bool.eq_false_iff.mpr hopen) _ hmem).1 rfl
  slots_eq := rfl
  alone j k hj hk := by
    obtain ⟨n, hn⟩ := hsingle
    by_contra hne
    have hbefore : s.tasks[j]? = some k := (List.getElem?_set_ne (Ne.symm hne)).symm.trans hj
    exact hne ((hn j k hbefore hk).trans (hn i .draining hi (.inl rfl)).symm)

theorem Step.drained (h : Step s s') (hs : s.Drained i) : s'.Drained i where
  closed := h.closed_of_closed hs.closed
  slots_eq := h.slots_of_empty hs.closed hs.slots_eq
  alone j k' hj hk' := by
    obtain ⟨k, hj, hk⟩ := h.drains hs.closed hj hk'
    exact hs.alone j k hj hk

/-- The acquisition ends with a connection, or has ended with it. -/
def Gives (s : System κ) (j m : Nat) : Prop :=
  ∃ a, s.tasks[j]? = some (.acquire a) ∧ a.stage.given? = some m

/-- The acquisition had a connection made, and does not bring it into the pool any more. -/
def Late (s : System κ) (j : Nat) : Prop :=
  ∃ a, s.tasks[j]? = some (.acquire a) ∧ a.stage.Late

theorem Step.late (h : Step s s') (hclosed : s.pool.closed = true) {j : Nat} (hlate : s.Late j) :
    s'.Late j := by
  obtain ⟨a, hj, hlate⟩ := hlate
  obtain ⟨_, hcases⟩ := h.task_cases
  rcases hcases j with hsame | ⟨-, k, l, hk, hl, hmoves⟩ | ⟨hnone, -⟩
  · exact ⟨a, hsame.trans hj, hlate⟩
  · obtain rfl := Option.some.inj (hj.symm.trans hk)
    cases hmoves with
    | acquire hmoves => exact ⟨_, hl, hmoves.late hclosed hlate⟩
  · exact nomatch hj.symm.trans hnone

/-- No creation is under way, and none is still to be ended. -/
def NoCreation (s : System κ) : Prop := ∀ k ∈ s.tasks, k.HasCreated

instance (s : System κ) : Decidable s.NoCreation :=
  inferInstanceAs (Decidable (∀ k ∈ s.tasks, k.HasCreated))

omit [Closable κ] in
/-- Who had a connection made too late has failed when no creation is under way. -/
theorem Late.failed {j : Nat} (hlate : s.Late j) (hended : s.NoCreation) :
    ∃ a, s.tasks[j]? = some (.acquire a) ∧ a.outcome? = some (.failed .poolClosed) := by
  obtain ⟨a, hj, hlate⟩ := hlate
  obtain ⟨hnone, hrest⟩ := hended (.acquire a) (List.mem_of_getElem? hj)
  refine ⟨a, hj, ?_⟩
  rw [Acquire.outcome?]
  generalize a.stage = st at hlate hnone hrest
  cases hlate with
  | holding | adopting => exact nomatch hnone
  | ending rest =>
    obtain rfl : rest = [] := hrest
    rfl

end System

end Pool

end RpcTransport
