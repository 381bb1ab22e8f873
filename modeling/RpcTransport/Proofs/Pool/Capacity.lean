import Mathlib.Algebra.Order.BigOperators.Group.List
import Mathlib.Algebra.Order.Ring.Nat
import RpcTransport.Proofs.Pool.Callers

/-!
# No more connections than permits

A permit is free, or goes with a slot, or is in somebody's hands: those of a creation from the
moment the permit is reserved until it is a slot's or is returned, or those of a closing that has
taken the slots out of the pool and has not dropped them yet. Every step passes permits on between
these (`Moves.conserves`).

An open connection is in a slot, or in the hands of somebody who has a permit for it and closes it
before the permit is returned (`Task.charge`, `Task.Orderly`). So there are no more open connections
than permits, whoever made them and whether or not the pool has taken them in.
-/

namespace RpcTransport

open Pool (Action)

/-! ## What is in hand -/

namespace AcquireStage

/-- The permit of a creation that goes on. -/
def creating : AcquireStage → Nat
  | .entering | .attempting _ | .connecting _ _ | .pausing _ _ | .holding _ | .adopting _ => 1
  | _ => 0

theorem length_inHand_le (st : AcquireStage) : st.inHand.length ≤ st.creating := by
  cases st with
  | _ => simp [inHand, creating]

end AcquireStage

namespace Pool

/-- The members that are to be closed. -/
def closes (rest : List Action) : List Nat :=
  rest.filterMap fun
    | .close m _ => some m
    | _ => none

/-- There is a permit to be returned for each connection to be closed, and it is returned after the
connection was closed. -/
def Orderly (rest : List Action) : Prop :=
  ∀ suffix, suffix <:+ rest → (closes suffix).length ≤ suffix.count .returnPermit

theorem orderly_of_closes_eq_nil {rest : List Action} (h : closes rest = []) : Orderly rest := by
  rintro suffix ⟨front, rfl⟩
  rw [closes, List.filterMap_append, List.append_eq_nil_iff] at h
  rw [closes, h.2]
  exact Nat.zero_le _

theorem Orderly.tail {action : Action} {rest : List Action} (h : Orderly (action :: rest)) :
    Orderly rest := fun suffix hs ↦ h suffix (hs.trans (List.suffix_cons action rest))

theorem Orderly.cons_of_le {action : Action} {rest : List Action} (h : Orderly rest)
    (hle : (closes (action :: rest)).length ≤ (action :: rest).count .returnPermit) :
    Orderly (action :: rest) := by
  intro suffix hs
  rcases List.suffix_cons_iff.mp hs with rfl | hs
  · exact hle
  · exact h suffix hs

section Drained

variable (ms ns : List Nat)

/-- What a closing has to do for some connections to be closed and some permits to be returned. -/
private def closing : List Action :=
  ms.map (.close · "connection pool closed") ++ ns.map (fun _ ↦ .returnPermit) ++ [.notify]

private theorem closes_closing : closes (closing ms ns) = ms := by
  simp [closing, closes, List.filterMap_append, List.filterMap_map]

private theorem count_closing : (closing ms ns).count .returnPermit = ns.length := by
  have hclose : (ms.map (Action.close · "connection pool closed")).count .returnPermit = 0 := by
    rw [List.count_eq_zero]
    simp
  have hreturn : (ns.map fun _ ↦ Action.returnPermit).count .returnPermit = ns.length := by
    rw [List.map_const', List.count_replicate_self]
  rw [closing, List.count_append, List.count_append, hclose, hreturn]
  simp

private theorem orderly_closing (h : ms.length ≤ ns.length) : Orderly (closing ms ns) := by
  induction ms with
  | nil => exact orderly_of_closes_eq_nil (closes_closing [] ns)
  | cons m ms ih =>
    refine (ih (Nat.le_of_succ_le h)).cons_of_le ?_
    change (closes (closing (m :: ms) ns)).length ≤ (closing (m :: ms) ns).count .returnPermit
    rw [closes_closing, count_closing]
    exact h

end Drained

@[simp]
theorem closes_drainedActions (drained : List Nat) : closes (drainedActions drained) = drained :=
  closes_closing drained drained

@[simp]
theorem count_drainedActions (drained : List Nat) :
    (drainedActions drained).count .returnPermit = drained.length := count_closing drained drained

/-- A closing has a permit for each connection it took. -/
theorem orderly_drainedActions (drained : List Nat) : Orderly (drainedActions drained) :=
  orderly_closing drained drained (Nat.le_refl _)

namespace Task

/-- The permit of a creation, from its reservation until it is passed on. -/
def creation : Task → Nat
  | acquire a => a.stage.creating + a.stage.rest.count .returnPermit
  | _ => 0

/-- The permits of the slots that a closing has taken. -/
def drained : Task → Nat
  | chores rest => rest.count .returnPermit
  | _ => 0

def permits (k : Task) : Nat := k.creation + k.drained

/-- The connections that a task will put into the pool or close. -/
def charge : Task → List Nat
  | acquire a => a.stage.inHand ++ closes a.stage.rest
  | chores rest => closes rest
  | closing | draining => []

/-- A task has a permit for each connection it is in charge of. -/
theorem length_charge_le {k : Task} (h : Orderly k.rest) : k.charge.length ≤ k.permits := by
  have hrest := h k.rest List.suffix_rfl
  cases k with
  | acquire a =>
    have hhand := a.stage.length_inHand_le
    simp only [charge, permits, creation, drained, List.length_append]
    simp only [rest] at hrest
    omega
  | chores actions => simpa [charge, permits, creation, drained, rest] using hrest
  | closing | draining => exact Nat.le_refl 0

end Task

/-! ## Open connections -/

section

variable {κ : Type} [Closable κ] {p p' : Pool κ} {m : Nat}

theorem isClosedAt_close [LawfulClosable κ] (p : Pool κ) (m : Nat) (reason : String) :
    (p.perform (.close m reason)).isClosedAt m = true := by
  rw [perform, closeMember, modifyMember, isClosedAt, List.getElem?_modify]
  cases p.members[m]? with
  | none => rfl
  | some x => simpa using LawfulClosable.isClosed_close reason x.connection

/-- The members that are still open, of all that were ever made. -/
def openMembers (p : Pool κ) : List Nat :=
  (List.range p.members.length).filter fun m ↦ !p.isClosedAt m

theorem mem_openMembers : m ∈ p.openMembers ↔ p.isClosedAt m = false := by
  rw [openMembers, List.mem_filter, List.mem_range, Bool.not_eq_true']
  refine ⟨And.right, fun h ↦ ⟨?_, h⟩⟩
  by_contra hm
  rw [isClosedAt, List.getElem?_eq_none (Nat.le_of_not_lt hm)] at h
  cases h

/-! ## Steps -/

theorem permits_prune (p : Pool κ) :
    p.prune.permits + p.prune.slots.length = p.permits + p.slots.length := by
  have hle : (p.slots.filter fun m ↦ !p.isClosedAt m).length ≤ p.slots.length :=
    List.length_filter_le _ _
  change p.permits + (p.slots.length - (p.slots.filter fun m ↦ !p.isClosedAt m).length) +
    (p.slots.filter fun m ↦ !p.isClosedAt m).length = _
  omega

theorem permits_perform (p : Pool κ) (action : Action) :
    (p.perform action).permits + (p.perform action).slots.length =
      p.permits + p.slots.length + [action].count .returnPermit := by
  cases action with
  | prune => exact p.permits_prune
  | returnPermit => exact Nat.add_right_comm _ _ _
  | dropLease | notify | leaveCreation | close | watch => rfl

end

end Pool

namespace AcquireStage

variable {κ : Type} [Closable κ] {p p' : Pool κ} {st st' : AcquireStage}

/-- **A step of an acquisition passes permits on.** -/
theorem Passes.conserves (h : st.Passes p st' p') :
    p'.permits + p'.slots.length + (st'.creating + st'.rest.count .returnPermit) =
      p.permits + p.slots.length + (st.creating + st.rest.count .returnPermit) := by
  cases h with
  | quit h =>
    rcases h with rfl | ⟨_, rfl⟩ | ⟨_, rfl⟩ | ⟨_, _, rfl⟩
    all_goals rfl
  | idle | busy =>
    have hprune := p.permits_prune
    exact congrArg (· + 0) hprune
  | reserve h =>
    simp only [creating, rest, List.count_nil]
    omega
  | adopt a m o =>
    have hnone : (a.adopted m).count .returnPermit = 0 := by
      rw [Acquire.adopted]
      split
      all_goals rfl
    simp only [creating, rest, hnone, List.length_append, List.length_singleton, List.count_nil]
    omega
  | unadopted a m =>
    have hone : (a.unadopted m).count .returnPermit = 1 := by
      rw [Acquire.unadopted]
      split
      all_goals rfl
    simp only [creating, rest, hone, List.count_nil]
  | act action rest o =>
    have hact := p.permits_perform action
    simp only [creating, AcquireStage.rest, List.count_cons, List.count_nil] at hact ⊢
    omega
  | abandon h =>
    rcases h with ⟨_, _, rfl⟩ | ⟨_, _, rfl⟩
    all_goals rfl
  | check | again | listen | noPermit | enter | attempt | resume | lend | keep | share | noShare
  | wait | connect | retry => rfl

theorem Passes.closed_eq (h : st.Passes p st' p') : p'.closed = p.closed := by
  cases h with
  | act action =>
    cases action with
    | _ => rfl
  | _ => rfl

theorem Passes.orderly (h : st.Passes p st' p') (hst : Pool.Orderly st.rest) :
    Pool.Orderly st'.rest := by
  have hnil : Pool.Orderly [] := Pool.orderly_of_closes_eq_nil rfl
  cases h with
  | adopt a m o =>
    refine Pool.orderly_of_closes_eq_nil ?_
    change Pool.closes (a.adopted m) = []
    rw [Acquire.adopted]
    split
    all_goals rfl
  | unadopted a m =>
    -- The connection is closed first, and its permit is the next to be returned.
    have htail : Pool.closes ((a.unadopted m).tail) = [] := by
      rw [Acquire.unadopted]
      split
      all_goals rfl
    have hone : (Pool.closes (a.unadopted m)).length ≤ (a.unadopted m).count .returnPermit := by
      rw [Acquire.unadopted]
      split
      all_goals exact Nat.le_refl 1
    exact (Pool.orderly_of_closes_eq_nil htail).cons_of_le hone
  | act => exact hst.tail
  | abandon => exact Pool.orderly_of_closes_eq_nil rfl
  | _ => exact hnil

variable [LawfulClosable κ] {m : Nat}

/-- **An open connection is not lost.** -/
theorem Passes.covers (h : st.Passes p st' p') (hopen : p'.isClosedAt m = false)
    (hm : p.isClosedAt m = true ∨ m ∈ p.slots ∨ m ∈ st.inHand ++ Pool.closes st.rest) :
    m ∈ p'.slots ∨ m ∈ st'.inHand ++ Pool.closes st'.rest := by
  cases hbefore : p.isClosedAt m with
  | true =>
    rcases h.isClosedAt_or hbefore with hclosed | ⟨-, hnew⟩
    · exact nomatch hclosed.symm.trans hopen
    · exact .inr (List.mem_append_left _ hnew)
  | false =>
    replace hm := hm.resolve_left (Bool.eq_false_iff.mp hbefore)
    have hpruned : m ∈ p.slots → m ∈ p.prune.slots := fun hm ↦
      List.mem_filter.mpr ⟨hm, by rw [hbefore]; rfl⟩
    cases h with
    | quit h =>
      rcases h with rfl | ⟨_, rfl⟩ | ⟨_, rfl⟩ | ⟨_, _, rfl⟩
      all_goals exact hm
    | abandon h =>
      rcases h with ⟨_, _, rfl⟩ | ⟨_, _, rfl⟩
      all_goals exact hm
    | idle | busy => exact hm.imp_left hpruned
    | connect => exact hm.imp_right nofun
    | adopt a n o =>
      refine .inl (List.mem_append.mpr (hm.imp_right fun hm ↦ ?_))
      simpa [inHand, rest, Pool.closes] using hm
    | unadopted a n =>
      refine hm.imp_right fun hm ↦ ?_
      have hn : m = n := by simpa [inHand, rest, Pool.closes] using hm
      subst hn
      exact List.mem_cons_self
    | act action rest o =>
      cases action with
      | close n reason =>
        refine hm.imp_right fun hm ↦ ?_
        rcases List.mem_cons.mp hm with rfl | hm
        · exact nomatch (p.isClosedAt_close m reason).symm.trans hopen
        · exact hm
      | prune => exact hm.imp_left hpruned
      | dropLease | notify | leaveCreation | returnPermit | watch => exact hm
    | _ => exact hm

end AcquireStage

namespace Pool

variable {κ : Type} [Closable κ]

namespace Moves

variable {k k' : Task} {p p' : Pool κ} {m : Nat}

/-- **Permits are neither lost nor doubled by a step of a task.** -/
theorem conserves (h : Moves k p k' p') :
    p'.permits + p'.slots.length + k'.permits = p.permits + p.slots.length + k.permits := by
  cases h with
  | acquire h => exact (Acquire.passes_of_moves h).conserves
  | chore action rest =>
    have hact := p.permits_perform action
    simp only [Task.permits, Task.creation, Task.drained, List.count_cons, List.count_nil] at hact ⊢
    omega
  | close | closeNone => rfl
  | drain =>
    simp only [Task.permits, Task.creation, Task.drained, count_drainedActions]
    change p.permits + 0 + (0 + p.slots.length) = p.permits + p.slots.length + 0
    omega

theorem orderly (h : Moves k p k' p') (hk : Orderly k.rest) : Orderly k'.rest := by
  cases h with
  | acquire h => exact (Acquire.passes_of_moves h).orderly hk
  | chore => exact hk.tail
  | close | closeNone => exact orderly_of_closes_eq_nil rfl
  | drain => exact orderly_drainedActions p.slots

/-- Only who sets the flag drains the pool, and only who drains it takes slots away. -/
theorem undrained (h : Moves k p k' p') (hp : p'.closed = false)
    (hk : k ≠ .draining ∧ k.drained = 0) : k' ≠ .draining ∧ k'.drained = 0 := by
  cases h with
  | chore action rest =>
    refine ⟨Task.noConfusion, ?_⟩
    have hcount : (action :: rest).count .returnPermit = 0 := hk.2
    exact Nat.le_zero.mp (hcount ▸ List.count_le_count_cons)
  | close => exact nomatch hp
  | drain => exact absurd rfl hk.1
  | acquire | closeNone => exact ⟨Task.noConfusion, rfl⟩

theorem closed_of_closed (h : Moves k p k' p') (hp : p.closed = true) : p'.closed = true := by
  cases h with
  | acquire h => exact (Acquire.passes_of_moves h).closed_eq.trans hp
  | chore action =>
    cases action with
    | _ => exact hp
  | close | closeNone => rfl
  | drain => exact hp

variable [LawfulClosable κ]

/-- **An open connection stays in the pool or with who is to close it**, and a new one is with who
made it. -/
theorem covers (h : Moves k p k' p') (hopen : p'.isClosedAt m = false)
    (hm : p.isClosedAt m = true ∨ m ∈ p.slots ∨ m ∈ k.charge) : m ∈ p'.slots ∨ m ∈ k'.charge := by
  cases h with
  | acquire h => exact (Acquire.passes_of_moves h).covers hopen hm
  | chore action rest =>
    -- A chore is to the pool what a last action of an acquisition is.
    exact (AcquireStage.Passes.act action rest .aborted p).covers hopen hm
  | close | closeNone => exact hm.resolve_left (Bool.eq_false_iff.mp hopen)
  | drain =>
    refine .inr ?_
    rw [Task.charge, closes_drainedActions]
    exact (hm.resolve_left (Bool.eq_false_iff.mp hopen)).resolve_right List.not_mem_nil

end Moves

/-! ## Runs -/

theorem sum_map_set (f : Task → Nat) {ks : List Task} {i : Nat} {k : Task} (h : ks[i]? = some k)
    (k' : Task) : ((ks.set i k').map f).sum + f k = (ks.map f).sum + f k' := by
  induction ks generalizing i with
  | nil => exact nomatch h
  | cons l ks ih =>
    cases i with
    | zero =>
      obtain rfl : l = k := Option.some.inj h
      simp only [List.set_cons_zero, List.map_cons, List.sum_cons]
      omega
    | succ i =>
      have hrest := ih (i := i) h
      simp only [List.set_cons_succ, List.map_cons, List.sum_cons]
      omega

namespace System

variable {s s' : System κ} {size : Nat}

/-- The permits of the creations that are under way. -/
def creations (s : System κ) : Nat := (s.tasks.map Task.creation).sum

/-- The permits of slots that a closing has taken out of the pool and is about to drop. -/
def drained (s : System κ) : Nat := (s.tasks.map Task.drained).sum

structure Balanced (size : Nat) (s : System κ) : Prop where
  total : s.pool.permits + s.pool.slots.length + (s.tasks.map Task.permits).sum = size
  orderly : ∀ k ∈ s.tasks, Orderly k.rest
  covered : ∀ m, s.pool.isClosedAt m = false → m ∈ s.pool.slots ∨ ∃ k ∈ s.tasks, m ∈ k.charge
  undrained : s.pool.closed = false → ∀ k ∈ s.tasks, k ≠ .draining ∧ k.drained = 0

omit [Closable κ] in
theorem sum_permits (s : System κ) :
    (s.tasks.map Task.permits).sum = s.creations + s.drained := List.sum_map_add

/-- A task that has nothing from the pool comes in. -/
theorem Balanced.append {p : Pool κ} {ks : List Task} (h : Balanced size ⟨p, ks⟩) {k : Task}
    (hpermits : k.permits = 0) (hcloses : closes k.rest = []) (hk : k ≠ .draining) :
    Balanced size ⟨p, ks ++ [k]⟩ := by
  constructor
  · have htotal := h.total
    simpa [hpermits] using htotal
  · intro l hl
    rcases List.mem_append.mp hl with hl | hl
    · exact h.orderly l hl
    · rw [List.mem_singleton.mp hl]
      exact orderly_of_closes_eq_nil hcloses
  · intro m hm
    refine (h.covered m hm).imp_right fun ⟨l, hl, hml⟩ ↦ ?_
    exact ⟨l, List.mem_append_left _ hl, hml⟩
  · intro hp l hl
    rcases List.mem_append.mp hl with hl | hl
    · exact h.undrained hp l hl
    · rw [List.mem_singleton.mp hl]
      exact ⟨hk, Nat.le_zero.mp (hpermits ▸ Nat.le_add_left _ _)⟩

/-- Each open connection goes with a permit that is not free. -/
theorem Balanced.length_openMembers_le (h : s.Balanced size) :
    s.pool.openMembers.length ≤ s.pool.slots.length + (s.tasks.map Task.permits).sum := by
  have hnodup : s.pool.openMembers.Nodup := List.nodup_range.filter _
  have hsub : s.pool.openMembers ⊆ s.pool.slots ++ s.tasks.flatMap Task.charge := by
    intro m hm
    rw [List.mem_append, List.mem_flatMap]
    exact h.covered m (mem_openMembers.mp hm)
  have hcharge : (s.tasks.flatMap Task.charge).length ≤ (s.tasks.map Task.permits).sum := by
    rw [List.length_flatMap]
    exact List.sum_le_sum fun k hk ↦ k.length_charge_le (h.orderly k hk)
  calc s.pool.openMembers.length
      ≤ (s.pool.slots ++ s.tasks.flatMap Task.charge).length :=
        (List.subperm_of_subset hnodup hsub).length_le
    _ = s.pool.slots.length + (s.tasks.flatMap Task.charge).length := List.length_append
    _ ≤ _ := Nat.add_le_add_left hcharge _

theorem balanced_start (config : PoolConfig) (target : String) (now : Nat) :
    Balanced config.maxSize (start κ config target now) := by
  have hempty : Balanced config.maxSize ⟨Pool.start (κ := κ) config target, []⟩ :=
    ⟨rfl, fun _ hk ↦ (nomatch hk), fun _ hm ↦ (nomatch hm), fun _ _ hk ↦ (nomatch hk)⟩
  rw [start]
  split
  · exact hempty.append rfl rfl Task.noConfusion
  · exact hempty

variable [LawfulClosable κ]

theorem Balanced.move {i : Nat} {k k' : Task} {p : Pool κ} (hs : s.Balanced size)
    (hi : s.tasks[i]? = some k) (h : Moves k s.pool k' p) :
    Balanced size ⟨p, s.tasks.set i k'⟩ := by
  have hk : k ∈ s.tasks := List.mem_of_getElem? hi
  have hk' : k' ∈ s.tasks.set i k' := mem_set_self hi k'
  constructor
  · have htotal := hs.total
    have hconserves := h.conserves
    have hset := sum_map_set Task.permits hi k'
    change p.permits + p.slots.length + ((s.tasks.set i k').map Task.permits).sum = size
    omega
  · intro l hl
    rcases List.mem_or_eq_of_mem_set hl with hl | rfl
    · exact hs.orderly l hl
    · exact h.orderly (hs.orderly k hk)
  · intro m hm
    have hcovers (hmk : s.pool.isClosedAt m = true ∨ m ∈ s.pool.slots ∨ m ∈ k.charge) :
        m ∈ p.slots ∨ ∃ l ∈ s.tasks.set i k', m ∈ l.charge :=
      (h.covers hm hmk).imp_right fun hmk' ↦ ⟨k', hk', hmk'⟩
    cases hbefore : s.pool.isClosedAt m with
    | true => exact hcovers (.inl hbefore)
    | false =>
      rcases hs.covered m hbefore with hslot | ⟨l, hl, hml⟩
      · exact hcovers (.inr (.inl hslot))
      · rcases mem_set_or_eq hi hl k' with hl | rfl
        · exact .inr ⟨l, hl, hml⟩
        · exact hcovers (.inr (.inr hml))
  · intro hp l hl
    have hbefore : s.pool.closed = false := by
      by_contra hclosed
      rw [Bool.not_eq_false] at hclosed
      exact nomatch (h.closed_of_closed hclosed).symm.trans hp
    rcases List.mem_or_eq_of_mem_set hl with hl | rfl
    · exact hs.undrained hbefore l hl
    · exact h.undrained hp (hs.undrained hbefore k hk)

theorem Step.balanced (h : Step s s') (hs : s.Balanced size) : s'.Balanced size := by
  cases h with
  | acquire options now =>
    refine hs.append ?_ ?_ Task.noConfusion
    all_goals
      simp only [Task.permits, Task.creation, Task.rest]
      rcases Acquire.start_stage s.pool.config options now with hstage | hstage
      all_goals
        rw [hstage]
        rfl
  | release m => exact hs.append rfl rfl Task.noConfusion
  | closeAll => exact hs.append rfl rfl Task.noConfusion
  | @wake m _ hm h =>
    have hunwatched : Balanced size ⟨{ s.pool with watched := s.pool.watched.erase m }, s.tasks⟩ :=
      ⟨hs.total, hs.orderly, hs.covered, hs.undrained⟩
    exact hunwatched.append rfl rfl Task.noConfusion
  | evolve n f hf =>
    refine ⟨hs.total, hs.orderly, fun m hm ↦ hs.covered m ?_, hs.undrained⟩
    by_contra hclosed
    rw [Bool.not_eq_false] at hclosed
    exact nomatch (isClosedAt_modifyMember (fun x ↦ hf x.connection) n hclosed).symm.trans hm
  | move i hi h => exact hs.move hi h

theorem balanced_of_reachable {config : PoolConfig} {target : String} {now : Nat}
    (h : Relation.ReflTransGen Step (start κ config target now) s) :
    s.Balanced config.maxSize := by
  induction h with
  | refl => exact balanced_start config target now
  | tail _ hstep ih => exact hstep.balanced ih

/-! ## Capacity -/

/-- **The capacity of a pool is conserved.** In every state that a pool reaches, whatever its
factory answers and whoever gives up, ends a lease, prunes or closes the pool in between: the free
permits, the slots, the permits of creations under way and those of the slots that a closing has
taken and not dropped yet are as many as the configuration says. A pool that is not closed has none
of the last kind. So there are at no time more open connections than that, in the pool or of all
that were ever made for it. -/
theorem capacity_conserved {config : PoolConfig} {target : String} {now : Nat}
    (h : Relation.ReflTransGen Step (start κ config target now) s) :
    s.pool.permits + s.pool.slots.length + s.creations + s.drained = config.maxSize ∧
    (s.drained = 0 → s.pool.permits + s.pool.slots.length + s.creations = config.maxSize) ∧
    (s.pool.closed = false → s.drained = 0) ∧
    s.pool.live ≤ config.maxSize ∧
    s.pool.openMembers.length ≤ config.maxSize := by
  have hs := balanced_of_reachable h
  have htotal := hs.total
  rw [sum_permits] at htotal
  refine ⟨?_, ?_, ?_, ?_, ?_⟩
  · omega
  · intro hnone
    omega
  · intro hopen
    refine List.sum_eq_zero fun n hn ↦ ?_
    obtain ⟨k, hk, rfl⟩ := List.mem_map.mp hn
    exact (hs.undrained hopen k hk).2
  · have hlive : s.pool.live ≤ s.pool.slots.length := List.length_filter_le _ _
    omega
  · have hopen := hs.length_openMembers_le
    rw [sum_permits] at hopen
    omega

/-- A pool with room for one connection is closed while its caller has just made it: the pool is
empty, but the permit is not free before the caller has closed the connection. -/
theorem capacity_conserved_unadopted :
    ∃ s, Relation.ReflTransGen Step
        (start Connection { PoolConfig.standard with maxSize := 1 } "target" 0) s ∧
      s.pool.closed = true ∧ s.pool.slots = [] ∧ s.pool.openMembers = [0] ∧
      s.pool.permits + s.pool.slots.length + s.creations = 1 ∧ s.pool.openMembers.length ≤ 1 := by
  let c : Connection := .start ⟨"connection", "target", .client, 1⟩ .standard .standard
    (.ofConfig .standard 1 .standard)
  have h₁ := Relation.ReflTransGen.single (Step.acquire .standard 0
    (start Connection { PoolConfig.standard with maxSize := 1 } "target" 0))
  have h₂ := h₁.trans (reachable_run 0 0 6 rfl)
  have h₃ := h₂.tail (.move 0 rfl (.acquire (.connected rfl c _)))
  have h₄ := h₃.tail (.closeAll _)
  have h₅ := h₄.tail (.move 1 rfl (.close rfl))
  have h₆ := h₅.tail (.move 1 rfl (.drain _))
  have h₇ := h₆.trans (reachable_run 0 0 2 rfl)
  have hcapacity := capacity_conserved h₇
  exact ⟨_, h₇, rfl, rfl, rfl, hcapacity.2.1 rfl, hcapacity.2.2.2.2⟩

/-- **While a pool is being closed there are permits with nobody but the closing.** A pool with room
for one connection has one. The closing has taken it from the slots and has still to close it, and
its permit is not free, no slot's and no creation's. -/
theorem uncounted_while_draining :
    ¬ ∀ s, Relation.ReflTransGen Step
        (start Connection { PoolConfig.standard with maxSize := 1 } "target" 0) s →
      s.pool.permits + s.pool.slots.length + s.creations = 1 := by
  intro hall
  let c : Connection := .start ⟨"connection", "target", .client, 1⟩ .standard .standard
    (.ofConfig .standard 1 .standard)
  have h₁ := Relation.ReflTransGen.single (Step.acquire .standard 0
    (start Connection { PoolConfig.standard with maxSize := 1 } "target" 0))
  have h₂ := h₁.trans (reachable_run 0 0 6 rfl)
  have h₃ := h₂.tail (.move 0 rfl (.acquire (.connected rfl c _)))
  have h₄ := h₃.trans (reachable_run 0 0 5 rfl)
  have h₅ := h₄.tail (.closeAll _)
  have h₆ := h₅.tail (.move 1 rfl (.close rfl))
  have h₇ := h₆.tail (.move 1 rfl (.drain _))
  have htotal : 0 = 1 := hall _ h₇
  exact Nat.zero_ne_one htotal

end System

end Pool

end RpcTransport
