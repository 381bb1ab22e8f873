import RpcTransport.Proofs.Pool.Closing

/-!
# Who is in charge of a connection

A connection is in the slots, or with one task, which puts it there or closes it (`Task.charge`). A
step moves it on: from who has made it into the slots, from the slots to a closing, and from who
closes it to nowhere. It is never in two places (`System.Owned`).

The pool closes a connection through a task that has nothing else to do with it. So a connection
that a caller has in hand is not closed by anybody in the pool (`System.Owned.eq_of_mem_charge`,
`Moves.mem_closes`).
-/

namespace RpcTransport

open Pool (Action)

/-! ## Who may close -/

namespace Pool

variable {κ : Type} [Closable κ] {p : Pool κ} {m : Nat}

theorem isClosedAt_modifyMember_eq {f : Member κ → Member κ}
    (hf : ∀ x, (f x).connection = x.connection) (p : Pool κ) (n m : Nat) :
    (p.modifyMember n f).isClosedAt m = p.isClosedAt m := by
  rw [isClosedAt, isClosedAt, modifyMember, List.getElem?_modify]
  cases p.members[m]? with
  | none => rfl
  | some x =>
    by_cases hn : n = m
    · simp [hn, hf]
    · simp [hn]

theorem isClosedAt_modifyMember_ne {f : Member κ → Member κ} {n : Nat} (hn : n ≠ m) (p : Pool κ) :
    (p.modifyMember n f).isClosedAt m = p.isClosedAt m := by
  rw [isClosedAt, isClosedAt, modifyMember, List.getElem?_modify]
  simp [hn]

theorem lt_length_of_open (h : p.isClosedAt m = false) : m < p.members.length :=
  List.mem_range.mp (List.mem_filter.mp (mem_openMembers.mpr h)).1

omit [Closable κ] in
theorem closes_adopted (a : Acquire) (m : Nat) : closes (a.adopted m) = [] := by
  rw [Acquire.adopted]
  split
  · rfl
  · rfl

omit [Closable κ] in
theorem closes_unadopted (a : Acquire) (m : Nat) : closes (a.unadopted m) = [m] := by
  rw [Acquire.unadopted]
  split
  · rfl
  · rfl

/-- What a step makes of the connections that are in the slots, and of those that its task is in
charge of before and after: none is in more places than it was, or one was just made. -/
inductive Conveys (p : Pool κ) (held : List Nat) (p' : Pool κ) (held' : List Nat) : Prop where
  | on (hlength : p'.members.length = p.members.length)
      (hcount : ∀ m, p'.slots.count m + held'.count m ≤ p.slots.count m + held.count m)
  | new (hlength : p'.members.length = p.members.length + 1) (hslots : p'.slots = p.slots)
      (hheld : held = []) (hheld' : held' = [p.members.length])

end Pool

namespace AcquireStage.Passes

variable {κ : Type} [Closable κ] {st st' : AcquireStage} {p p' : Pool κ} {m : Nat}

/-- A connection that a step closes was to be closed by who makes the step. -/
theorem mem_closes (h : st.Passes p st' p') (hopen : p.isClosedAt m = false)
    (hclosed : p'.isClosedAt m = true) : m ∈ Pool.closes st.rest := by
  have hleases (q : Pool κ) (n : Nat) : (q.addLease n).isClosedAt m = q.isClosedAt m :=
    Pool.isClosedAt_modifyMember_eq (f := fun x ↦ { x with leases := x.leases + 1 }) (fun _ ↦ rfl)
      q n m
  have hchanged : p'.isClosedAt m ≠ p.isClosedAt m := by
    rw [hopen, hclosed]
    decide
  cases h with
  | idle _ n | share _ n | lend n => exact absurd (hleases _ n) hchanged
  | connect made generation c =>
    have hne : m ≠ p.members.length := Nat.ne_of_lt (Pool.lt_length_of_open hopen)
    exact absurd (Pool.isClosedAt_addMember c hne) hchanged
  | act action rest o =>
    cases action with
    | close n reason =>
      by_cases hn : n = m
      · rw [hn]
        exact List.mem_cons_self
      · exact absurd (Pool.isClosedAt_modifyMember_ne hn p) hchanged
    | dropLease n =>
      refine absurd (Pool.isClosedAt_modifyMember_eq ?_ p n m) hchanged
      exact fun _ ↦ rfl
    | notify | leaveCreation | returnPermit | prune | watch => exact absurd rfl hchanged
  | _ => exact absurd rfl hchanged

theorem conveys (h : st.Passes p st' p') :
    p.Conveys (st.inHand ++ Pool.closes st.rest) p' (st'.inHand ++ Pool.closes st'.rest) := by
  have hprune (m : Nat) : p.prune.slots.count m ≤ p.slots.count m :=
    List.filter_sublist.count_le m
  cases h with
  | quit h =>
    rcases h with rfl | ⟨_, rfl⟩ | ⟨_, rfl⟩ | ⟨_, _, rfl⟩
    all_goals exact .on rfl fun _ ↦ Nat.le_refl _
  | abandon h =>
    rcases h with ⟨_, _, rfl⟩ | ⟨_, _, rfl⟩
    all_goals exact .on rfl fun _ ↦ Nat.le_refl _
  | idle => exact .on (List.length_modify _ _ _) fun m ↦ Nat.add_le_add_right (hprune m) _
  | busy => exact .on rfl fun m ↦ Nat.add_le_add_right (hprune m) _
  | lend | share => exact .on (List.length_modify _ _ _) fun _ ↦ Nat.le_refl _
  | adopt a n o =>
    refine .on rfl fun m ↦ ?_
    change (p.slots ++ [n]).count m + (Pool.closes (a.adopted n)).count m ≤
      p.slots.count m + [n].count m
    rw [Pool.closes_adopted, List.count_append]
    exact Nat.le_refl _
  | unadopted a n =>
    refine .on rfl fun m ↦ ?_
    change p.slots.count m + (Pool.closes (a.unadopted n)).count m ≤
      p.slots.count m + [n].count m
    rw [Pool.closes_unadopted]
  | act action rest o =>
    have hrest (m : Nat) : (Pool.closes rest).count m ≤ (Pool.closes (action :: rest)).count m :=
      ((List.sublist_cons_self action rest).filterMap _).count_le m
    cases action with
    | prune => exact .on rfl fun m ↦ Nat.add_le_add (hprune m) (hrest m)
    | dropLease | close =>
      exact .on (List.length_modify _ _ _) fun m ↦ Nat.add_le_add_left (hrest m) _
    | notify | leaveCreation | returnPermit | watch =>
      exact .on rfl fun m ↦ Nat.add_le_add_left (hrest m) _
  | connect => exact .new List.length_append rfl rfl rfl
  | _ => exact .on rfl fun _ ↦ Nat.le_refl _

end AcquireStage.Passes

namespace Pool

variable {κ : Type} [Closable κ]

section

variable {k k' : Task} {p p' : Pool κ} {m : Nat}

theorem Task.New.charge_eq (h : k.New) : k.charge = [] := by
  cases h with
  | acquire config options now =>
    rw [Task.charge]
    rcases Acquire.start_stage config options now with hst | hst
    all_goals
      rw [hst]
      rfl
  | release | closeAll | wake => rfl

theorem Moves.mem_closes (h : Moves k p k' p') (hopen : p.isClosedAt m = false)
    (hclosed : p'.isClosedAt m = true) : m ∈ closes k.rest := by
  cases h with
  | acquire h => exact (Acquire.passes_of_moves h).mem_closes hopen hclosed
  | chore action rest =>
    exact (AcquireStage.Passes.act action rest .aborted p).mem_closes hopen hclosed
  | close | closeNone | drain => exact nomatch hopen.symm.trans hclosed

/-- **A step moves a connection on**, or it has just made one. -/
theorem Moves.conveys (h : Moves k p k' p') : p.Conveys k.charge p' k'.charge := by
  cases h with
  | acquire h => exact (Acquire.passes_of_moves h).conveys
  | chore action rest => exact (AcquireStage.Passes.act action rest .aborted p).conveys
  | close | closeNone => exact .on rfl fun _ ↦ Nat.le_refl _
  | drain =>
    refine .on rfl fun m ↦ ?_
    rw [Task.charge, closes_drainedActions]
    exact Nat.le_of_eq (Nat.add_comm _ _)

end

/-! ## One owner -/

namespace System

variable {s s' : System κ} {m : Nat}

/-- How often a connection is in the slots or with somebody who puts it there or closes it. -/
def owners (s : System κ) (m : Nat) : Nat :=
  s.pool.slots.count m + (s.tasks.map fun k ↦ k.charge.count m).sum

/-- **A connection is in one place**, and one that was not made is in none. -/
def Owned (s : System κ) : Prop := ∀ m, s.owners m ≤ if m < s.pool.members.length then 1 else 0

omit [Closable κ] in
theorem Owned.append {p : Pool κ} {ks : List Task} (h : Owned ⟨p, ks⟩) {k : Task}
    (hk : k.charge = []) : Owned ⟨p, ks ++ [k]⟩ := by
  intro m
  have hm := h m
  simpa [owners, hk] using hm

theorem Owned.move {i : Nat} {k k' : Task} {p : Pool κ} (hs : s.Owned)
    (hi : s.tasks[i]? = some k) (h : Moves k s.pool k' p) : Owned ⟨p, s.tasks.set i k'⟩ := by
  intro m
  have hm := hs m
  have hset := sum_map_set (fun k ↦ k.charge.count m) hi k'
  simp only [owners] at hm hset ⊢
  cases h.conveys with
  | on hlength hcount =>
    have hle := hcount m
    rw [hlength]
    omega
  | new hlength hslots hheld hheld' =>
    -- What was just made was nowhere before.
    rw [hheld, hheld', List.count_nil, List.count_singleton] at hset
    rw [hlength, hslots]
    by_cases hlast : m = s.pool.members.length
    · subst hlast
      rw [if_neg (Nat.lt_irrefl _)] at hm
      rw [if_pos (beq_self_eq_true _)] at hset
      rw [if_pos (Nat.lt_succ_self _)]
      omega
    · rw [if_neg (by simpa using Ne.symm hlast)] at hset
      split at hm
      all_goals
        split
        all_goals omega

theorem Step.owned (h : Step s s') (hs : s.Owned) : s'.Owned := by
  cases h with
  | acquire options now => exact hs.append (Task.New.acquire _ options now).charge_eq
  | release n => exact hs.append (Task.New.release n).charge_eq
  | closeAll => exact hs.append Task.New.closeAll.charge_eq
  | @wake n _ hn h =>
    have hunwatched : Owned ⟨{ s.pool with watched := s.pool.watched.erase n }, s.tasks⟩ := hs
    exact hunwatched.append Task.New.wake.charge_eq
  | evolve n f hf =>
    intro m
    have hm := hs m
    change s.owners m ≤ if m < (s.pool.members.modify n _).length then 1 else 0
    rwa [List.length_modify]
  | move i hi h => exact hs.move hi h

omit [Closable κ] in
theorem owned_start (config : PoolConfig) (target : String) (now : Nat) :
    Owned (start κ config target now) := by
  have hempty : Owned ⟨Pool.start (κ := κ) config target, []⟩ := fun _ ↦ Nat.zero_le _
  rw [start]
  split
  · exact hempty.append rfl
  · exact hempty

theorem owned_of_reachable {config : PoolConfig} {target : String} {now : Nat}
    (h : Relation.ReflTransGen Step (start κ config target now) s) : s.Owned := by
  induction h with
  | refl => exact owned_start config target now
  | tail _ hstep ih => exact hstep.owned ih

omit [Closable κ] in
/-- Two tasks are not in charge of the same connection. -/
theorem Owned.eq_of_mem_charge (hs : s.Owned) {i j : Nat} {k l : Task} (hi : s.tasks[i]? = some k)
    (hj : s.tasks[j]? = some l) (hk : m ∈ k.charge) (hl : m ∈ l.charge) : i = j := by
  by_contra hij
  -- With task `i` taken out, task `j` still has the connection.
  have hset := sum_map_set (fun k ↦ k.charge.count m) hi (.chores [])
  have hl' : l ∈ s.tasks.set i (.chores []) :=
    List.mem_of_getElem? ((List.getElem?_set_ne hij).trans hj)
  have hle := List.single_le_sum (fun _ _ ↦ Nat.zero_le _) _
    (List.mem_map_of_mem (f := fun k : Task ↦ k.charge.count m) hl')
  have hone := hs m
  have hkpos := List.count_pos_iff.mpr hk
  have hlpos := List.count_pos_iff.mpr hl
  have hnone : (Task.chores []).charge.count m = 0 := rfl
  simp only [owners] at hone
  split at hone
  all_goals omega

end System

end Pool

end RpcTransport
