import Mathlib.Algebra.BigOperators.Group.List.Basic
import Mathlib.Algebra.Order.Ring.Nat
import Mathlib.Data.List.Nodup
import Mathlib.Data.List.Perm.Basic
import RpcTransport.Proofs.Pool.Leases

/-!
# Leases are accounted for

Acquisitions, ends of leases, closed connections and a closing or a dropped pool come in any order,
and a lease may end while somebody looks at the slots (`Lending.Step.refresh`). What is excluded is
that anybody else chooses from the slots, or puts a connection into them, during a look.

A count is at all times the number of leases that are out (`System.Accounted.leases_eq`), because a
step counts what it gets and what it ends, and nothing else. It is never more than it may be,
because during a look the counts of the connections in the slots do not rise: whoever lends one of
them holds the slots, and a connection that is lent by who has made it is not in the slots yet, and
nobody else knows it (`System.Accounted.places_le`, `System.Accounted.hand`).
-/

namespace RpcTransport

namespace Pool

variable {κ : Type} {k k' : Task} {p p' : Pool κ}

/-! ## Books -/

namespace System

variable {ks ls : List Task}

/-- The leases that are out. -/
def lent (s : System κ) : List Nat := s.tasks.flatMap Task.lent

/-- In how many places a connection is: in the slots, and in the hands of those who make it. -/
def places (s : System κ) (m : Nat) : Nat :=
  s.pool.slots.count m + (s.tasks.flatMap Task.inHand).count m

structure Accounted (s : System κ) : Prop where
  leases_eq : ∀ m, s.pool.leasesOf m = s.lent.count m
  places_le : ∀ m, s.places m ≤ if m < s.pool.members.length then 1 else 0
  /-- Who has a connection in hand has all its leases. -/
  hand : ∀ k ∈ s.tasks, ∀ m ∈ k.inHand, s.pool.leasesOf m ≤ k.lent.count m
  capped : ∀ m, s.pool.leasesOf m ≤ max 1 s.pool.config.maxLeases

/-- The order of the tasks does not matter. -/
theorem Accounted.perm (hs : Accounted ⟨p, ks⟩) (h : ks.Perm ls) : Accounted ⟨p, ls⟩ where
  leases_eq m := (hs.leases_eq m).trans ((h.flatMap_right Task.lent).count_eq m)
  places_le m := by
    have hle := hs.places_le m
    rw [places, (h.flatMap_right Task.inHand).count_eq m] at hle
    exact hle
  hand k hk := hs.hand k (h.mem_iff.mpr hk)
  capped := hs.capped

theorem Accounted.quiet (hs : Accounted ⟨p, ks⟩) (hq : p.Quiet p') : Accounted ⟨p', ks⟩ where
  leases_eq m := (hq.leases_eq m).trans (hs.leases_eq m)
  places_le m := by
    have hle := hs.places_le m
    have hslots := hq.slots_sublist.count_le m
    rw [hq.length_eq]
    exact Nat.le_trans (Nat.add_le_add_right hslots _) hle
  hand l hl m hm := Nat.le_trans (Nat.le_of_eq (hq.leases_eq m)) (hs.hand l hl m hm)
  capped m := by
    rw [hq.leases_eq, hq.config_eq]
    exact hs.capped m

/-- A task that has nothing comes in. -/
theorem Accounted.append (hs : Accounted ⟨p, ks⟩) (hlent : k.lent = []) (hhand : k.inHand = []) :
    Accounted ⟨p, ks ++ [k]⟩ where
  leases_eq m := by
    have heq := hs.leases_eq m
    simpa [lent, hlent] using heq
  places_le m := by
    have hle := hs.places_le m
    simpa [places, hhand] using hle
  hand l hl m hm := by
    rcases List.mem_append.mp hl with hl | hl
    · exact hs.hand l hl m hm
    · rw [List.mem_singleton.mp hl, hhand] at hm
      exact nomatch hm
  capped := hs.capped

theorem Accounted.places_le_one {s : System κ} (hs : s.Accounted) (m : Nat) : s.places m ≤ 1 := by
  have hle := hs.places_le m
  split at hle
  · exact hle
  · exact Nat.le_trans hle (Nat.zero_le 1)

theorem Accounted.one_place (hs : Accounted ⟨p, k :: ks⟩) (m : Nat) :
    p.slots.count m + k.inHand.count m + (ks.flatMap Task.inHand).count m ≤ 1 := by
  have hone := hs.places_le_one m
  rwa [places, List.flatMap_cons, List.count_append, ← Nat.add_assoc] at hone

theorem Accounted.made (hs : Accounted ⟨p, k :: ks⟩) (m : Nat) (hm : m ∈ p.slots ++ k.inHand) :
    m < p.members.length := by
  have hle := hs.places_le m
  have hpos := List.count_pos_iff.mpr hm
  refine Nat.lt_of_not_le fun hge ↦ ?_
  rw [if_neg (Nat.not_lt_of_le hge)] at hle
  simp only [places, List.flatMap_cons, List.count_append] at hle hpos
  omega

end System

variable [Closable κ]

/-! ## Steps -/

namespace Task.Accounts

variable {m : Nat}

theorem config_eq (h : k.Accounts p k' p') : p'.config = p.config := by
  cases h with
  | quiet _ _ hq => exact hq.config_eq
  | pick _ hq _ _ _ _ hp =>
    rw [hp, ← hq.config_eq]
    rfl
  | take _ _ _ _ hp | make _ _ _ hp | adopt _ _ _ _ hp | drop _ _ hp => exact hp ▸ rfl

/-- Only a connection that was just made is new in hand. -/
theorem inHand_or (h : k.Accounts p k' p') (hm : m ∈ k'.inHand) :
    m ∈ k.inHand ∨ m = p.members.length := by
  cases h with
  | quiet _ hhand => exact .inl (hhand.subset hm)
  | take _ _ hhand hhand' => exact .inl (hhand ▸ hhand' ▸ hm)
  | make _ _ hhand' => exact .inr (List.mem_singleton.mp (hhand' ▸ hm))
  | pick _ _ _ _ _ hhand' | adopt _ _ _ hhand' | drop _ hhand' =>
    rw [hhand'] at hm
    exact nomatch hm

/-- A connection is in one place, in the slots or in hand. It may move to the slots, and it may
vanish from both, and what was just made is in hand only. -/
theorem places (h : k.Accounts p k' p') :
    p'.members.length = p.members.length ∧
      (∀ m, p'.slots.count m + k'.inHand.count m ≤ p.slots.count m + k.inHand.count m) ∨
    p'.members.length = p.members.length + 1 ∧ p'.slots = p.slots ∧ k.inHand = [] ∧
      k'.inHand = [p.members.length] := by
  cases h with
  | quiet _ hhand hq =>
    refine .inl ⟨hq.length_eq, fun m ↦ ?_⟩
    exact Nat.add_le_add (hq.slots_sublist.count_le m) (hhand.count_le m)
  | @pick n q _ hq _ _ _ hhand' hp =>
    subst hp
    refine .inl ⟨(List.length_modify _ _ _).trans hq.length_eq, fun m ↦ ?_⟩
    rw [hhand']
    exact Nat.add_le_add (hq.slots_sublist.count_le m) (Nat.zero_le _)
  | take _ _ hhand hhand' hp =>
    subst hp
    exact .inl ⟨List.length_modify _ _ _, fun m ↦ by rw [hhand, hhand']; exact Nat.le_refl _⟩
  | make _ hhand hhand' hp =>
    subst hp
    exact .inr ⟨List.length_append, rfl, hhand, hhand'⟩
  | adopt _ _ hhand hhand' hp =>
    subst hp
    refine .inl ⟨rfl, fun m ↦ ?_⟩
    rw [hhand, hhand', List.count_append, List.count_nil]
    exact Nat.le_refl _
  | drop _ hhand' hp =>
    subst hp
    refine .inl ⟨List.length_modify _ _ _, fun m ↦ ?_⟩
    rw [hhand']
    exact Nat.add_le_add (Nat.le_refl _) (Nat.zero_le _)

/-- Who does not hold the slots does not put a connection into them. -/
theorem slots_sublist (h : k.Accounts p k' p') (hlocks : k.locks = false) :
    p'.slots.Sublist p.slots := by
  cases h with
  | quiet _ _ hq => exact hq.slots_sublist
  | pick hlocks' | adopt hlocks' => exact nomatch hlocks.symm.trans hlocks'
  | take _ _ _ _ hp | make _ _ _ hp | drop _ _ hp => exact hp ▸ .refl _

variable (hmade : ∀ n ∈ p.slots ++ k.inHand, n < p.members.length)

include hmade

/-- A connection is lent from the slots, as long as it may be, or to who has it in hand. -/
theorem leases_le_or (h : k.Accounts p k' p') (m : Nat) :
    p'.leasesOf m ≤ p.leasesOf m ∨ p'.leasesOf m ≤ p.leasesOf m + 1 ∧
      (k.locks = true ∧ m ∈ p.slots ∧ p.leasesOf m < max 1 p.config.maxLeases ∨
        k.lent = [] ∧ k.inHand = [m]) := by
  have hadd {q : Pool κ} {n : Nat} (hn : n < q.members.length) :
      (q.addLease n).leasesOf m ≤ q.leasesOf m ∨
        (q.addLease n).leasesOf m ≤ q.leasesOf m + 1 ∧ n = m := by
    rw [leasesOf_addLease hn, List.count_singleton]
    split
    · next heq => exact .inr ⟨Nat.le_refl _, beq_iff_eq.mp heq⟩
    · exact .inl (Nat.le_refl _)
  cases h with
  | quiet _ _ hq => exact .inl (Nat.le_of_eq (hq.leases_eq m))
  | @pick n q hlocks hq hn hfew _ _ hp =>
    have hn' := hq.slots_sublist.subset hn
    rw [hq.leases_eq, hq.config_eq] at hfew
    rw [hp, ← hq.leases_eq m]
    refine (hadd ?_).imp_right fun ⟨hle, heq⟩ ↦ ⟨hle, .inl ?_⟩
    · rw [hq.length_eq]
      exact hmade n (List.mem_append_left _ hn')
    · subst heq
      exact ⟨hlocks, hn', hq.leases_eq n ▸ hfew⟩
  | @take n hlent _ hhand _ hp =>
    rw [hp]
    refine (hadd ?_).imp_right fun ⟨hle, heq⟩ ↦ ⟨hle, .inr ⟨hlent, heq ▸ hhand⟩⟩
    exact hmade n (by simp [hhand])
  | make _ _ _ hp => exact .inl (hp ▸ Nat.le_of_eq (leasesOf_addMember _ _ m))
  | adopt _ _ _ _ hp => exact .inl (hp ▸ Nat.le_refl _)
  | drop _ _ hp =>
    rw [hp, leasesOf_dropLease]
    exact .inl (Nat.sub_le _ _)

/-- **A step ends a lease that it had, and has the one it has got.** -/
theorem conserves (h : k.Accounts p k' p') (hcounted : ∀ n ∈ k.lent, 0 < p.leasesOf n) (m : Nat) :
    p'.leasesOf m + k.lent.count m = p.leasesOf m + k'.lent.count m := by
  cases h with
  | quiet hlent _ hq => rw [hq.leases_eq, hlent]
  | @pick n q _ hq hn _ hlent _ hp =>
    have hlt : n < q.members.length := by
      rw [hq.length_eq]
      exact hmade n (List.mem_append_left _ (hq.slots_sublist.subset hn))
    rw [hp, leasesOf_addLease hlt, hq.leases_eq, hlent, List.count_singleton, List.count_cons]
    omega
  | @take n hlent hlent' hhand _ hp =>
    have hlt : n < p.members.length := hmade n (by simp [hhand])
    rw [hp, leasesOf_addLease hlt, hlent, hlent']
    rfl
  | make hlent _ _ hp => rw [hp, leasesOf_addMember, hlent]
  | adopt _ hlent _ _ hp =>
    rw [hp, hlent]
    rfl
  | @drop n hlent _ hp =>
    have hpos := hcounted n (hlent ▸ List.mem_cons_self)
    rw [hp, leasesOf_dropLease, hlent, List.count_singleton, List.count_cons]
    split
    · next heq =>
      rw [beq_iff_eq.mp heq] at hpos
      omega
    · omega

end Task.Accounts

namespace System

variable {ks : List Task}

/-- What somebody else has in hand is not lent. -/
theorem Accounted.leases_le_of_inHand (hs : Accounted ⟨p, k :: ks⟩) (h : k.Accounts p k' p')
    {l : Task} (hl : l ∈ ks) {m : Nat} (hm : m ∈ l.inHand) : p'.leasesOf m ≤ p.leasesOf m := by
  have hhand : 0 < (ks.flatMap Task.inHand).count m :=
    List.count_pos_iff.mpr (List.mem_flatMap.mpr ⟨l, hl, hm⟩)
  have hone := hs.one_place m
  rcases h.leases_le_or hs.made m with hle | ⟨-, ⟨-, hslot, -⟩ | ⟨-, hown⟩⟩
  · exact hle
  · have hpos := List.count_pos_iff.mpr hslot
    omega
  · rw [hown, List.count_singleton_self] at hone
    omega

/-- While somebody else looks at the slots, no count in them rises. -/
theorem Accounted.leases_le_of_slots (hs : Accounted ⟨p, k :: ks⟩) (h : k.Accounts p k' p')
    (hlocks : k.locks = false) {m : Nat} (hm : m ∈ p.slots) : p'.leasesOf m ≤ p.leasesOf m := by
  have hone := hs.one_place m
  have hpos := List.count_pos_iff.mpr hm
  rcases h.leases_le_or hs.made m with hle | ⟨-, ⟨hlocks', -⟩ | ⟨-, hown⟩⟩
  · exact hle
  · exact nomatch hlocks.symm.trans hlocks'
  · rw [hown, List.count_singleton_self] at hone
    omega

theorem Accounted.places_move (hs : Accounted ⟨p, k :: ks⟩) (h : k.Accounts p k' p') (m : Nat) :
    places ⟨p', k' :: ks⟩ m ≤ if m < p'.members.length then 1 else 0 := by
  have hle := hs.places_le m
  simp only [places, List.flatMap_cons, List.count_append] at hle ⊢
  rcases h.places with ⟨hlength, hplaces⟩ | ⟨hlength, hslots, hhand, hhand'⟩
  · have hm := hplaces m
    rw [hlength]
    omega
  · -- What was just made was nowhere before.
    rw [hhand] at hle
    rw [hlength, hslots, hhand', List.count_singleton]
    by_cases hm : m = p.members.length
    · subst hm
      rw [if_neg (Nat.lt_irrefl _)] at hle
      rw [if_pos (Nat.lt_succ_self _), if_pos (beq_self_eq_true _)]
      omega
    · rw [if_neg (by simpa using Ne.symm hm)]
      split at hle
      all_goals
        split
        all_goals omega

/-- **Books are kept by every step of a task.** -/
theorem Accounted.move (hs : Accounted ⟨p, k :: ks⟩) (h : k.Accounts p k' p') :
    Accounted ⟨p', k' :: ks⟩ := by
  have hleases (m : Nat) : p.leasesOf m = k.lent.count m + (ks.flatMap Task.lent).count m :=
    (hs.leases_eq m).trans List.count_append
  have hcounted (n : Nat) (hn : n ∈ k.lent) : 0 < p.leasesOf n := by
    rw [hleases]
    exact Nat.add_pos_left (List.count_pos_iff.mpr hn) _
  have hconserves := h.conserves hs.made hcounted
  have hown (m : Nat) (hm : m ∈ k.inHand) : p.leasesOf m ≤ k.lent.count m :=
    hs.hand k List.mem_cons_self m hm
  constructor
  case leases_eq =>
    intro m
    have heq := hleases m
    have hm := hconserves m
    change p'.leasesOf m = (k'.lent ++ ks.flatMap Task.lent).count m
    rw [List.count_append]
    omega
  case places_le => exact hs.places_move h
  case hand =>
    intro l hl m hm
    change p'.leasesOf m ≤ l.lent.count m
    rcases List.mem_cons.mp hl with rfl | hl
    · have heq := hconserves m
      rcases h.inHand_or hm with hm | hm
      · have hle := hown m hm
        omega
      · have hzero := leasesOf_of_length_le (Nat.le_of_eq hm.symm)
        omega
    · exact Nat.le_trans (hs.leases_le_of_inHand h hl hm)
        (hs.hand l (List.mem_cons_of_mem k hl) m hm)
  case capped =>
    intro m
    have hle : p.leasesOf m ≤ max 1 p.config.maxLeases := hs.capped m
    change p'.leasesOf m ≤ max 1 p'.config.maxLeases
    rw [h.config_eq]
    rcases h.leases_le_or hs.made m with hless | ⟨hmore, ⟨-, -, hfew⟩ | ⟨hlent, hhand⟩⟩
    · exact Nat.le_trans hless hle
    · omega
    · -- Who has made a connection has not lent it yet.
      have hnone := hown m (hhand ▸ List.mem_singleton_self m)
      rw [hlent, List.count_nil] at hnone
      omega

theorem Accounted.move_at {s : System κ} {i : Nat} (hs : s.Accounted) (hi : s.tasks[i]? = some k)
    (h : k.Accounts s.pool k' p') :
    Accounted ⟨p', s.tasks.set i k'⟩ ∧ (k.locks = false → ∀ m ∈ p'.slots,
      m ∈ s.pool.slots ∧ p'.leasesOf m ≤ s.pool.leasesOf m) := by
  obtain ⟨hlt, rfl⟩ := List.getElem?_eq_some_iff.mp hi
  have hfront : Accounted ⟨s.pool, s.tasks[i] :: s.tasks.eraseIdx i⟩ :=
    hs.perm (List.getElem_cons_eraseIdx_perm hlt).symm
  have hperm := List.set_perm_cons_eraseIdx hlt k'
  refine ⟨(hfront.move h).perm hperm.symm, fun hlocks m hm ↦ ?_⟩
  have hslot : m ∈ s.pool.slots := (h.slots_sublist hlocks).subset hm
  exact ⟨hslot, hfront.leases_le_of_slots h hlocks hslot⟩

end System

/-- A lease that the caller has becomes one that is to end. -/
theorem accounts_of_giveBack {a : Acquire} {m : Nat} (h : a.outcome? = some (.leased m))
    (p : Pool κ) : (Task.acquire a).Accounts p (.chores (releaseActions m)) p := by
  obtain ⟨lastAttempt, eager, deadline, inFlightDeadline, stage⟩ := a
  cases stage with
  | ending rest o =>
    cases rest with
    | nil =>
      obtain rfl := Option.some.inj h
      exact .quiet rfl (.refl _) (.refl _)
    | cons => exact nomatch h
  | _ => exact nomatch h

/-! ## Looks -/

/-- Who chooses from the slots holds them from the first look to the end: which task that is, and
what it has seen of the members. -/
structure Lending (κ : Type) extends System κ where
  look : Option (Nat × List (Member κ))

namespace Lending

def start (κ : Type) (config : PoolConfig) (target : String) (now : Nat) : Lending κ :=
  ⟨.start κ config target now, none⟩

inductive Step : Lending κ → Lending κ → Prop where
  | acquire (options : AcquireOptions) (now : Nat) (s : Lending κ) :
      Step s { s with tasks := s.tasks ++ [.acquire (.start s.pool.config options now)] }
  /-- A caller is done with its connection. -/
  | giveBack {i m : Nat} {a : Acquire} {s : Lending κ} (hi : s.tasks[i]? = some (.acquire a))
      (h : a.outcome? = some (.leased m)) :
      Step s { s with tasks := s.tasks.set i (.chores (releaseActions m)) }
  | closeAll (s : Lending κ) : Step s { s with tasks := s.tasks ++ [.closing] }
  /-- The last handle of the pool is gone. The leases that are out may outlive it. -/
  | discard (s : Lending κ) :
      Step s { s with
        pool := s.pool.drain.2
        tasks := s.tasks ++ [.chores (s.pool.drain.1.map (.close · "connection pool dropped"))] }
  | wake {m : Nat} {s : Lending κ} (hm : m ∈ s.pool.watched) (h : s.pool.isClosedAt m = true) :
      Step s { s with
        pool := { s.pool with watched := s.pool.watched.erase m }
        tasks := s.tasks ++ [.chores closedActions] }
  /-- Whoever prunes comes to a closed connection. -/
  | expel {m : Nat} {s : Lending κ} (hm : m ∈ s.pool.slots) (h : s.pool.isClosedAt m = true) :
      Step s { s with
        pool := { s.pool with slots := s.pool.slots.erase m, permits := s.pool.permits + 1 } }
  /-- A connection goes on, and it may close. -/
  | evolve (m : Nat) (f : κ → κ) (s : Lending κ) :
      Step s { s with
        pool := s.pool.modifyMember m fun x ↦ { x with connection := f x.connection } }
  | move (i : Nat) {k k' : Task} {p : Pool κ} {s : Lending κ} (hi : s.tasks[i]? = some k)
      (hfree : s.look = none ∨ k.locks = false) (h : Moves k s.pool k' p) :
      Step s ⟨⟨p, s.tasks.set i k'⟩, s.look⟩
  /-- Somebody takes the slots to choose from them. -/
  | look {i : Nat} {a : Acquire} {s : Lending κ} (hi : s.tasks[i]? = some (.acquire a))
      (hpicks : a.stage.picks = true) (hfree : s.look = none) :
      Step s { s with look := some (i, s.pool.members) }
  /-- The members are looked at one after the other, and each is seen as it is then. -/
  | refresh {i n : Nat} {seen : List (Member κ)} {x : Member κ} {s : Lending κ}
      (hlook : s.look = some (i, seen)) (hx : s.pool.members[n]? = some x) :
      Step s { s with look := some (i, seen.set n x) }
  /-- What was chosen is lent, and the slots are free. -/
  | conclude {i : Nat} {seen : List (Member κ)} {a a' : Acquire} {p : Pool κ} {s : Lending κ}
      (hlook : s.look = some (i, seen)) (hi : s.tasks[i]? = some (.acquire a))
      (h : a.conclude seen s.pool = some (a', p)) :
      Step s ⟨⟨p, s.tasks.set i (.acquire a')⟩, none⟩

theorem reachable_run (i now fuel : Nat) {a : Acquire} {s : System κ}
    (hi : s.tasks[i]? = some (.acquire a)) :
    Relation.ReflTransGen Step ⟨s, none⟩
      ⟨⟨(a.run now fuel s.pool).2, s.tasks.set i (.acquire (a.run now fuel s.pool).1)⟩, none⟩ :=
  (System.reachable_run_of (R := fun s s' ↦ Step ⟨s, none⟩ ⟨s', none⟩)
    (fun i _ hi h ↦ .move i hi (.inl rfl) (.acquire (.step h))) i now fuel hi).lift
    (fun s ↦ (⟨s, none⟩ : Lending κ)) fun _ _ h ↦ h

structure Accounted (config : PoolConfig) (s : Lending κ) : Prop where
  config_eq : s.pool.config = config
  books : s.toSystem.Accounted
  /-- No count was lower when it was seen. -/
  seen : ∀ i seen, s.look = some (i, seen) → ∀ m ∈ s.pool.slots,
    s.pool.leasesOf m ≤ (s.pool.seeing seen).leasesOf m

variable {s s' : Lending κ} {config : PoolConfig} {target : String} {now : Nat}

theorem Step.accounted (h : Step s s') (hs : s.Accounted config) : s'.Accounted config := by
  obtain ⟨hconfig, hbooks, hseen⟩ := hs
  cases h with
  | acquire options now =>
    refine ⟨hconfig, hbooks.append ?_ ?_, hseen⟩
    all_goals
      simp only [Task.lent, Task.inHand]
      rcases Acquire.start_stage s.pool.config options now with hstage | hstage
      all_goals
        rw [hstage]
        rfl
  | giveBack hi h =>
    exact ⟨hconfig, (hbooks.move_at hi (accounts_of_giveBack h s.pool)).1, hseen⟩
  | closeAll => exact ⟨hconfig, hbooks.append rfl rfl, hseen⟩
  | discard =>
    have hquiet : s.pool.Quiet s.pool.drain.2 := quiet_of_eq rfl rfl (List.nil_sublist _)
    refine ⟨hconfig, (hbooks.quiet hquiet).append (drops_map_close _ _) rfl, ?_⟩
    exact fun _ _ _ m hm ↦ absurd hm List.not_mem_nil
  | @wake m _ hm h =>
    have hquiet : s.pool.Quiet { s.pool with watched := s.pool.watched.erase m } :=
      quiet_of_eq rfl rfl (.refl _)
    exact ⟨hconfig, (hbooks.quiet hquiet).append rfl rfl, hseen⟩
  | @expel n _ hn h =>
    have hquiet : s.pool.Quiet
        { s.pool with slots := s.pool.slots.erase n, permits := s.pool.permits + 1 } :=
      quiet_of_eq rfl rfl List.erase_sublist
    refine ⟨hconfig, hbooks.quiet hquiet, fun i seen hlook m hm ↦ ?_⟩
    exact hseen i seen hlook m (List.mem_of_mem_erase hm)
  | evolve n f =>
    have hquiet : s.pool.Quiet
        (s.pool.modifyMember n fun x ↦ { x with connection := f x.connection }) :=
      s.pool.quiet_modifyMember n fun _ ↦ rfl
    refine ⟨hconfig, hbooks.quiet hquiet, fun i seen hlook m hm ↦ ?_⟩
    exact Nat.le_trans (Nat.le_of_eq (hquiet.leases_eq m)) (hseen i seen hlook m hm)
  | move i hi hfree h =>
    have haccounts := accounts_of_moves h
    obtain ⟨hbooks', hle⟩ := hbooks.move_at hi haccounts
    refine ⟨haccounts.config_eq.trans hconfig, hbooks', fun j seen hlook m hm ↦ ?_⟩
    have hlocks := hfree.resolve_left fun hnone ↦ Option.some_ne_none _ (hlook.symm.trans hnone)
    obtain ⟨hslot, hle⟩ := hle hlocks m hm
    exact Nat.le_trans hle (hseen j seen hlook m hslot)
  | look hi hpicks hfree =>
    refine ⟨hconfig, hbooks, fun i seen hlook m _ ↦ ?_⟩
    obtain ⟨-, rfl⟩ := Prod.mk.inj (Option.some.inj hlook)
    exact Nat.le_refl _
  | refresh hlook hx =>
    refine ⟨hconfig, hbooks, fun i seen hlook' m hm ↦ ?_⟩
    obtain ⟨-, rfl⟩ := Prod.mk.inj (Option.some.inj hlook')
    exact leases_le_seeing_set hx (hseen _ _ hlook m hm)
  | conclude hlook hi h =>
    have haccounts := Acquire.accounts_of_conclude h (.refl _) (hseen _ _ hlook)
    refine ⟨haccounts.config_eq.trans hconfig, (hbooks.move_at hi haccounts).1, ?_⟩
    exact fun _ _ hsome ↦ absurd hsome.symm (Option.some_ne_none _)

omit [Closable κ] in
theorem accounted_start (config : PoolConfig) (target : String) (now : Nat) :
    (start κ config target now).Accounted config := by
  have hempty : System.Accounted ⟨Pool.start (κ := κ) config target, []⟩ :=
    ⟨fun _ ↦ rfl, fun _ ↦ Nat.zero_le _, fun _ hk ↦ (nomatch hk), fun _ ↦ Nat.zero_le _⟩
  refine ⟨rfl, ?_, fun _ _ hnone ↦ (nomatch hnone)⟩
  change System.Accounted (System.start κ config target now)
  rw [System.start]
  split
  · exact hempty.append rfl rfl
  · exact hempty

theorem accounted_of_reachable (h : Relation.ReflTransGen Step (start κ config target now) s) :
    s.Accounted config := by
  induction h with
  | refl => exact accounted_start config target now
  | tail _ hstep ih => exact hstep.accounted ih

/-! ## What the books say -/

/-- A lease that is about to end is out. -/
theorem mem_lent_of_rest {k : Task} {m : Nat} {rest : List Action}
    (h : k.rest = .dropLease m :: rest) : m ∈ k.lent := by
  have hdrop : m ∈ drops (.dropLease m :: rest) := List.mem_cons_self
  cases k with
  | acquire a =>
    obtain ⟨lastAttempt, eager, deadline, inFlightDeadline, stage⟩ := a
    cases stage with
    | ending actions o =>
      obtain rfl : actions = _ := h
      exact List.mem_append_left _ hdrop
    | _ => exact nomatch h
  | chores actions =>
    obtain rfl : actions = _ := h
    exact hdrop
  | _ => exact nomatch h

/-- To count each of some different things is to count all that are among them. -/
theorem sum_count (ms : List Nat) (hms : ms.Nodup) (lent : List Nat) :
    (ms.map (lent.count ·)).sum = lent.countP (· ∈ ms) := by
  induction lent with
  | nil => simp
  | cons n lent ih =>
    have hone (ms : List Nat) : (ms.map fun m ↦ if n == m then 1 else 0).sum = ms.count n := by
      induction ms with
      | nil => rfl
      | cons m ms ih =>
        rw [List.map_cons, List.sum_cons, ih, List.count_cons, BEq.comm, Nat.add_comm]
    simp only [List.count_cons, List.sum_map_add, ih, hone, hms.count, List.countP_cons,
      decide_eq_true_eq]

/-- **Leases are accounted for**, if the factory makes a new connection each time. In every state
that a pool reaches, in whatever order connections are acquired, given back, closed and pruned, and
the pool is closed or dropped: the count of a connection is the number of its leases that are out; the
end of a lease finds the count above zero; the leases of the pool are those that are out on
connections in it; and no connection has more leases than it may have, or than one if it may have
none. -/
theorem leases_accounted (h : Relation.ReflTransGen Step (start κ config target now) s) :
    (∀ m, s.pool.leasesOf m = s.lent.count m) ∧
    (∀ k ∈ s.tasks, ∀ m rest, k.rest = .dropLease m :: rest → 0 < s.pool.leasesOf m) ∧
    s.pool.leased = s.lent.countP (· ∈ s.pool.slots) ∧
    ∀ m, s.pool.leasesOf m ≤ max 1 config.maxLeases := by
  obtain ⟨rfl, hs, -⟩ := accounted_of_reachable h
  refine ⟨hs.leases_eq, fun k hk m rest hrest ↦ ?_, ?_, hs.capped⟩
  · rw [hs.leases_eq, List.count_pos_iff, System.lent, List.mem_flatMap]
    exact ⟨k, hk, mem_lent_of_rest hrest⟩
  · have hnodup : s.pool.slots.Nodup := by
      refine List.nodup_iff_count_le_one.mpr fun m ↦ ?_
      exact Nat.le_trans (Nat.le_add_right _ _) (hs.places_le_one m)
    rw [← sum_count _ hnodup, leased, List.sum_eq_foldl, List.foldl_map]
    simp only [hs.leases_eq]

/-- The only connection of a pool is given back while a second caller looks at the slots, and it is
lent to the second caller. -/
theorem leases_accounted_meanwhile :
    ∃ s, Relation.ReflTransGen Step
        (start Connection { PoolConfig.standard with maxSize := 1, maxLeases := 1 } "target" 0) s ∧
      s.lent = [0] ∧ s.pool.leasesOf 0 = 1 ∧ s.pool.leased = 1 := by
  let c : Connection := .start ⟨"connection", "target", .client, 1⟩ .standard .standard
    (.ofConfig .standard 1 .standard)
  have h₁ := Relation.ReflTransGen.single (Step.acquire .standard 0
    (start Connection { PoolConfig.standard with maxSize := 1, maxLeases := 1 } "target" 0))
  have h₂ := h₁.trans (reachable_run 0 0 6 rfl)
  have h₃ := h₂.tail (.move 0 rfl (.inl rfl) (.acquire (.connected rfl c _)))
  have h₄ := h₃.trans (reachable_run 0 0 5 rfl)
  have h₅ := h₄.tail (.acquire .standard 0 _)
  have h₆ := h₅.trans (reachable_run 1 0 2 rfl)
  -- The second caller sees the connection lent, and sees it again when it is not.
  have h₇ := h₆.tail (.look (i := 1) rfl rfl rfl)
  have h₈ := h₇.tail (.giveBack (i := 0) rfl rfl)
  have h₉ := h₈.tail (.move 0 rfl (.inr rfl) (.chore _ _ _))
  have h₁₀ := h₉.tail (.refresh (n := 0) rfl rfl)
  have h₁₁ := h₁₀.tail (.conclude rfl rfl rfl)
  have haccounted := leases_accounted h₁₁
  exact ⟨_, h₁₁, rfl, haccounted.1 0, haccounted.2.2.1⟩

end Lending

end Pool

end RpcTransport
