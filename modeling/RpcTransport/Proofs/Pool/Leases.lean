import RpcTransport.Proofs.Pool.Callers

/-!
# What a step does to the leases

A lease lives from the moment it is counted until its end is counted. It is with the acquisition
that got it, or it is among what somebody has left to do: an acquisition that fails late ends its
own lease, and so does a caller that is done (`Task.lent`).

There are three places where a lease is counted. Two of them choose from the slots what they lend,
and hold the slots from the first look to the count, but a count that was read may be lower by
then, because leases end without the slots (`Acquire.conclude`). The third lends a connection that
its caller has just made and nobody else knows.

All that accounting needs to know of a step is `Task.Accounts`.
-/

namespace RpcTransport

open Pool (Action)

/-! ## Where a lease is -/

/-- The lease that an outcome comes with. -/
def AcquireOutcome.leases : AcquireOutcome → List Nat
  | .leased m => [m]
  | _ => []

namespace Pool

/-- The leases that are to end. -/
def drops (rest : List Action) : List Nat :=
  rest.filterMap fun
    | .dropLease m => some m
    | _ => none

theorem drops_cons (action : Action) (rest : List Action) :
    drops (action :: rest) = drops [action] ++ drops rest := List.filterMap_append (l := [action])

@[simp]
theorem drops_map_close (ms : List Nat) (reason : String) :
    drops (ms.map (.close · reason)) = [] := by
  rw [drops, List.filterMap_map, List.filterMap_eq_nil_iff]
  exact fun _ _ ↦ rfl

@[simp]
theorem drops_drainedActions (drained : List Nat) : drops (drainedActions drained) = [] := by
  rw [drops, List.filterMap_eq_nil_iff]
  intro action h
  simp only [drainedActions, List.mem_append, List.mem_map, List.mem_singleton] at h
  rcases h with (⟨_, _, rfl⟩ | ⟨_, _, rfl⟩) | rfl
  all_goals rfl

end Pool

namespace AcquireStage

/-- The leases of an acquisition: one that was counted and is not given to the caller yet, those
that are to end, and the one the caller has. -/
def lent (eager : Bool) : AcquireStage → List Nat
  | .adopting m => if eager then [] else [m]
  | .ending rest o => Pool.drops rest ++ o.leases
  | _ => []

/-- A connection is chosen from the slots. -/
def picks : AcquireStage → Bool
  | .choosing _ | .sharing _ => true
  | _ => false

/-- The step chooses from the slots, or puts a connection into them, and holds them meanwhile. -/
def locks : AcquireStage → Bool
  | .adopting _ => true
  | st => st.picks

end AcquireStage

namespace Pool

variable {κ : Type} {p p' : Pool κ} {m : Nat}

namespace Task

/-- The leases that a task has to end, and the one that it has got for its caller. -/
def lent : Task → List Nat
  | acquire a => a.stage.lent a.eager
  | chores rest => drops rest
  | closing | draining => []

/-- Who takes connections out of the slots holds them too. Nothing rests on that here. -/
def locks : Task → Bool
  | acquire a => a.stage.locks
  | chores _ | closing | draining => false

end Task

/-! ## Counts -/

theorem leasesOf_modifyMember (p : Pool κ) (m n : Nat) (f : Member κ → Member κ) :
    (p.modifyMember m f).leasesOf n =
      if m = n then (p.members[n]?.map fun x ↦ (f x).leases).getD 0 else p.leasesOf n := by
  rw [leasesOf, leasesOf, modifyMember, List.getElem?_modify]
  by_cases hmn : m = n
  · cases p.members[n]? with
    | _ => simp [hmn]
  · simp [hmn]

theorem leasesOf_addLease (hm : m < p.members.length) (n : Nat) :
    (p.addLease m).leasesOf n = p.leasesOf n + [m].count n := by
  rw [addLease, leasesOf_modifyMember]
  split
  · next hmn =>
    subst hmn
    rw [leasesOf, List.getElem?_eq_getElem hm, List.count_singleton_self]
    rfl
  · next hmn => rw [List.count_singleton, if_neg (by simpa using hmn), Nat.add_zero]

theorem leasesOf_addMember (p : Pool κ) (c : κ) (n : Nat) :
    (p.addMember c).2.leasesOf n = p.leasesOf n := by
  rw [leasesOf, leasesOf, addMember, List.getElem?_append]
  split
  · rfl
  · next hle =>
    rw [List.getElem?_eq_none (Nat.le_of_not_lt hle), List.getElem?_singleton]
    split
    all_goals rfl

theorem leasesOf_of_length_le (hm : p.members.length ≤ m) : p.leasesOf m = 0 := by
  rw [leasesOf, List.getElem?_eq_none hm]
  rfl

/-- Nothing is lent, given back or put into the pool. -/
structure Quiet (p p' : Pool κ) : Prop where
  leases_eq : ∀ m, p'.leasesOf m = p.leasesOf m
  length_eq : p'.members.length = p.members.length
  config_eq : p'.config = p.config
  slots_sublist : p'.slots.Sublist p.slots

theorem quiet_of_eq (hmembers : p'.members = p.members) (hconfig : p'.config = p.config)
    (hslots : p'.slots.Sublist p.slots) : p.Quiet p' where
  leases_eq m := by rw [leasesOf, leasesOf, hmembers]
  length_eq := congrArg List.length hmembers
  config_eq := hconfig
  slots_sublist := hslots

theorem Quiet.refl (p : Pool κ) : p.Quiet p := quiet_of_eq rfl rfl (.refl _)

theorem quiet_modifyMember (p : Pool κ) (m : Nat) {f : Member κ → Member κ}
    (hf : ∀ x, (f x).leases = x.leases) : p.Quiet (p.modifyMember m f) where
  leases_eq n := by
    rw [leasesOf_modifyMember]
    simp only [hf, leasesOf, ite_self]
  length_eq := List.length_modify _ _ _
  config_eq := rfl
  slots_sublist := .refl _

/-- The pool as somebody sees it who looked at the members before. -/
def seeing (p : Pool κ) (seen : List (Member κ)) : Pool κ := { p with members := seen }

/-- To look at one more member is to see it as it is. -/
theorem leases_le_seeing_set {seen : List (Member κ)} {n : Nat} {x : Member κ}
    (hx : p.members[n]? = some x) (hle : p.leasesOf m ≤ (p.seeing seen).leasesOf m) :
    p.leasesOf m ≤ (p.seeing (seen.set n x)).leasesOf m := by
  change p.leasesOf m ≤ ((seen.set n x)[m]?.map (·.leases)).getD 0
  rw [List.getElem?_set]
  split
  · next hnm =>
    subst hnm
    split
    · exact Nat.le_of_eq (congrArg (fun y ↦ (y.map (·.leases)).getD 0) hx)
    · next hlen =>
      have hnone : (p.seeing seen).leasesOf n = 0 :=
        leasesOf_of_length_le (Nat.le_of_not_lt hlen)
      exact hnone ▸ hle
  · exact hle

theorem leastLeased_mem {ms : List Nat} (h : p.leastLeased ms = some m) : m ∈ ms := by
  induction ms with
  | nil => exact nomatch h
  | cons n ms ih =>
    rw [leastLeased] at h
    split at h
    · exact Option.some.inj h ▸ List.mem_cons_self
    · next best hbest =>
      split at h
      · exact List.mem_cons_of_mem n (ih (hbest.trans h))
      · exact Option.some.inj h ▸ List.mem_cons_self

section

variable [Closable κ]

theorem quiet_prune (p : Pool κ) : p.Quiet p.prune := quiet_of_eq rfl rfl List.filter_sublist

theorem leasesOf_dropLease (p : Pool κ) (m n : Nat) :
    (p.perform (.dropLease m)).leasesOf n = p.leasesOf n - [m].count n := by
  rw [perform, leasesOf_modifyMember]
  split
  · next hmn =>
    subst hmn
    rw [leasesOf, List.count_singleton_self]
    cases p.members[m]? with
    | _ => rfl
  · next hmn => rw [List.count_singleton, if_neg (by simpa using hmn), Nat.sub_zero]

theorem quiet_perform {action : Action} (h : drops [action] = []) : p.Quiet (p.perform action) := by
  cases action with
  | dropLease m => exact nomatch h
  | close m reason => exact p.quiet_modifyMember m fun _ ↦ rfl
  | prune => exact p.quiet_prune
  | notify | leaveCreation | returnPermit | watch => exact quiet_of_eq rfl rfl (.refl _)

/-! ## Choices -/

theorem pickIdle_eq_some (h : p.pickIdle = some m) : m ∈ p.slots ∧ p.leasesOf m = 0 := by
  rw [pickIdle] at h
  have hm := List.find?_some h
  rw [Bool.and_eq_true, beq_iff_eq] at hm
  exact ⟨List.mem_of_find?_eq_some h, hm.2⟩

theorem pickLeastLeased_eq_some (h : p.pickLeastLeased = some m) :
    m ∈ p.slots ∧ p.leasesOf m < p.config.maxLeases := by
  obtain ⟨hm, hfew⟩ := List.mem_filter.mp (leastLeased_mem h)
  rw [Bool.and_eq_true, decide_eq_true_eq] at hfew
  exact ⟨hm, hfew.2⟩

end

end Pool

namespace Acquire

variable {κ : Type} [Closable κ] {a a' : Acquire} {p p' q : Pool κ} {seen : List (Member κ)}

/-- The end of a look at the slots: the choice is made by what was seen, and what was chosen is lent
at once. To prune the slots before is no part of it. -/
def conclude (a : Acquire) (seen : List (Member κ)) (p : Pool κ) : Option (Acquire × Pool κ) :=
  match a.stage with
  | .choosing changes =>
    match (p.seeing seen).pickIdle with
    | some m => some (a.finish [] (.leased m), p.addLease m)
    | none => some ({ a with stage := .reserving changes }, p)
  | .sharing changes =>
    match (p.seeing seen).pickLeastLeased with
    | some m => some (a.finish [] (.leased m), p.addLease m)
    | none => some ({ a with stage := .deciding changes }, p)
  | _ => none

/-- **A step that chooses is a look and its end**, when nobody acts in between. -/
theorem step_eq_conclude (hpicks : a.stage.picks = true) (now : Nat) :
    ∃ q, p.Quiet q ∧ a.step p now = a.conclude q.members q := by
  obtain ⟨lastAttempt, eager, deadline, inFlightDeadline, stage⟩ := a
  cases stage with
  | choosing => exact ⟨p.prune, p.quiet_prune, rfl⟩
  | sharing => exact ⟨p, .refl p, rfl⟩
  | _ => exact nomatch hpicks

end Acquire

namespace Pool

variable {κ : Type} [Closable κ]

/-! ## Accounts -/

/-- What a step of a task does to the leases and to the connections that may be lent. -/
inductive Task.Accounts (k : Task) (p : Pool κ) (k' : Task) (p' : Pool κ) : Prop where
  | quiet (lent : k'.lent = k.lent) (hand : k'.inHand.Sublist k.inHand) (pool : p.Quiet p')
  /-- A connection from the slots is lent. -/
  | pick {m : Nat} {q : Pool κ} (locks : k.locks = true) (before : p.Quiet q) (listed : m ∈ q.slots)
      (few : q.leasesOf m < max 1 q.config.maxLeases) (lent : k'.lent = m :: k.lent)
      (hand : k'.inHand = []) (pool : p' = q.addLease m)
  /-- A connection is lent to who has made it. -/
  | take {m : Nat} (lent : k.lent = []) (lent' : k'.lent = [m]) (hand : k.inHand = [m])
      (hand' : k'.inHand = [m]) (pool : p' = p.addLease m)
  | make {c : κ} (lent : k'.lent = k.lent) (hand : k.inHand = [])
      (hand' : k'.inHand = [p.members.length]) (pool : p' = (p.addMember c).2)
  | adopt {m : Nat} (locks : k.locks = true) (lent : k'.lent = k.lent) (hand : k.inHand = [m])
      (hand' : k'.inHand = []) (pool : p' = { p with slots := p.slots ++ [m] })
  | drop {m : Nat} (lent : k.lent = m :: k'.lent) (hand : k'.inHand = [])
      (pool : p' = p.perform (.dropLease m))

variable {k k' : Task} {p : Pool κ} {action : Action} {rest : List Action}

theorem accounts_of_perform (hhand : k'.inHand = []) (hlent : k.lent = drops [action] ++ k'.lent) :
    k.Accounts p k' (p.perform action) := by
  cases action with
  | dropLease m => exact .drop hlent hhand rfl
  | _ => exact .quiet hlent.symm (hhand ▸ List.nil_sublist _) (quiet_perform rfl)

end Pool

namespace Acquire

variable {κ : Type} [Closable κ] {a a' : Acquire} {p p' q : Pool κ} {seen : List (Member κ)}

/-- **What is chosen may be lent**, if no count was lower when it was read. -/
theorem accounts_of_conclude (h : a.conclude seen q = some (a', p')) (before : p.Quiet q)
    (hseen : ∀ m ∈ q.slots, q.leasesOf m ≤ (q.seeing seen).leasesOf m) :
    (Pool.Task.acquire a).Accounts p (.acquire a') p' := by
  obtain ⟨lastAttempt, eager, deadline, inFlightDeadline, stage⟩ := a
  cases stage with
  | choosing changes =>
    simp only [conclude] at h
    split at h
    · next m hpick =>
      obtain ⟨rfl, rfl⟩ := Prod.mk.inj (Option.some.inj h)
      obtain ⟨hm, hidle⟩ := Pool.pickIdle_eq_some hpick
      have hle := hseen m hm
      exact .pick rfl before hm (by omega) rfl rfl rfl
    · obtain ⟨rfl, rfl⟩ := Prod.mk.inj (Option.some.inj h)
      exact .quiet rfl (.refl _) before
  | sharing changes =>
    simp only [conclude] at h
    split at h
    · next m hpick =>
      obtain ⟨rfl, rfl⟩ := Prod.mk.inj (Option.some.inj h)
      obtain ⟨hm, hfew⟩ := Pool.pickLeastLeased_eq_some hpick
      have hle := hseen m hm
      have hcap : (q.seeing seen).config.maxLeases = q.config.maxLeases := rfl
      exact .pick rfl before hm (by omega) rfl rfl rfl
    · obtain ⟨rfl, rfl⟩ := Prod.mk.inj (Option.some.inj h)
      exact .quiet rfl (.refl _) before
  | _ => exact nomatch h

theorem accounts_of_step {now : Nat} (h : a.step p now = some (a', p')) :
    (Pool.Task.acquire a).Accounts p (.acquire a') p' := by
  have hdoes := does_of_step h
  have hnothing {p' : Pool κ} (hmembers : p'.members = p.members) (hconfig : p'.config = p.config)
      (hslots : p'.slots = p.slots) : p.Quiet p' := by
    exact Pool.quiet_of_eq hmembers hconfig (hslots ▸ .refl _)
  have hchooses (hpicks : a.stage.picks = true) :
      (Pool.Task.acquire a).Accounts p (.acquire a') p' := by
    obtain ⟨q, before, heq⟩ := a.step_eq_conclude (p := p) hpicks now
    rw [heq] at h
    exact accounts_of_conclude h before fun _ _ ↦ Nat.le_refl _
  obtain ⟨lastAttempt, eager, deadline, inFlightDeadline, stage⟩ := a
  cases hdoes with
  | pick | busy | share | noShare => exact hchooses rfl
  | refuse | check | forgo | noPermit | resume | wait | again | expire =>
    exact .quiet rfl (.refl _) (.refl _)
  | listen | reserve | enter | attempt => exact .quiet rfl (.refl _) (hnothing rfl rfl rfl)
  | hold =>
    cases eager with
    | true => exact .quiet rfl (.refl _) (hnothing rfl rfl rfl)
    | false => exact .take rfl rfl rfl rfl rfl
  | adopt =>
    cases eager with
    | _ => exact .adopt rfl rfl rfl rfl rfl
  | reject =>
    cases eager with
    | _ => exact .quiet rfl (List.nil_sublist _) (.refl _)
  | giveUp ho =>
    rcases ho with rfl | rfl
    · exact .quiet rfl (.refl _) (.refl _)
    · exact .quiet rfl (.refl _) (.refl _)
  | @act action rest o =>
    refine Pool.accounts_of_perform rfl ?_
    change Pool.drops (action :: rest) ++ o.leases =
      Pool.drops [action] ++ (Pool.drops rest ++ o.leases)
    rw [Pool.drops_cons, List.append_assoc]

theorem accounts_of_moves (h : a.Moves p a' p') :
    (Pool.Task.acquire a).Accounts p (.acquire a') p' := by
  cases h with
  | step h => exact accounts_of_step h
  | connected h c =>
    refine .make ?_ ?_ rfl rfl
    · change [] = a.stage.lent a.eager
      rw [h]
      rfl
    · change a.stage.inHand = []
      rw [h]
      rfl
  | refused h now e =>
    rw [refused]
    simp only [h]
    obtain ⟨lastAttempt, eager, deadline, inFlightDeadline, stage⟩ := a
    obtain rfl : stage = _ := h
    split
    all_goals exact .quiet rfl (.refl _) (.refl _)
  | abort h =>
    obtain ⟨lastAttempt, eager, deadline, inFlightDeadline, stage⟩ := a
    cases stage with
    | connecting | pausing | waiting =>
      obtain rfl := Option.some.inj h
      exact .quiet rfl (.refl _) (.refl _)
    | _ => cases h

end Acquire

namespace Pool

variable {κ : Type} [Closable κ] {k k' : Task} {p p' : Pool κ}

theorem accounts_of_moves (h : Moves k p k' p') : k.Accounts p k' p' := by
  cases h with
  | acquire h => exact Acquire.accounts_of_moves h
  | chore action rest => exact accounts_of_perform rfl (drops_cons action rest)
  | close | closeNone => exact .quiet rfl (.refl _) (quiet_of_eq rfl rfl (.refl _))
  | drain =>
    exact .quiet (drops_drainedActions _) (.refl _) (quiet_of_eq rfl rfl (List.nil_sublist _))

end Pool

end RpcTransport
