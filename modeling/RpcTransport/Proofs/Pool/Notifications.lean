import RpcTransport.Proofs.Pool.Callers

/-!
# What makes room is told

Room for those who wait is made by actions only: the end of a lease, the pruning of a closed
connection, and the entry of a new one, which counts as room from then on. Each is followed by a
notification from the same task (`Followed`), so that a move that is not one has either told, or is
to tell, or has made no room for leases; and the only permit it may have made free is one that its
task returns (`Moves.outcome`).

The permits that are returned are followed by a notification too, unless the task is an acquisition
that ends without a connection (`AcquireStage.failing`).
-/

namespace RpcTransport

open Pool (Action)

namespace Pool

/-! ## Room and notifications -/

/-- Those who wait are told. -/
def Action.notifies : Action → Bool
  | .notify | .leaveCreation => true
  | _ => false

/-- There may be room for those who wait, other than for want of a permit. -/
def Action.makesRoom : Action → Bool
  | .dropLease _ | .prune => true
  | _ => false

def Action.freesPermit : Action → Bool
  | .returnPermit => true
  | _ => false

/-- Actions of a kind are followed by a notification. -/
def Followed (kind : Action → Bool) (rest : List Action) : Prop :=
  ∀ action tail, action :: tail <:+ rest → kind action = true → ∃ x ∈ tail, x.notifies = true

section

variable {kind : Action → Bool} {action : Action} {rest : List Action}

theorem followed_of_none (h : ∀ x ∈ rest, kind x = false) : Followed kind rest := by
  intro action tail hs hkind
  have hmem : action ∈ rest := hs.subset List.mem_cons_self
  exact nomatch (h action hmem).symm.trans hkind

theorem followed_nil : Followed kind [] := followed_of_none nofun

theorem Followed.tail (h : Followed kind (action :: rest)) : Followed kind rest :=
  fun x tail hs ↦ h x tail (hs.trans (List.suffix_cons action rest))

theorem Followed.cons (h : Followed kind rest)
    (hkind : kind action = true → ∃ x ∈ rest, x.notifies = true) :
    Followed kind (action :: rest) := by
  intro x tail hs hx
  rcases List.suffix_cons_iff.mp hs with heq | hs
  · obtain ⟨rfl, rfl⟩ := List.cons.inj heq
    exact hkind hx
  · exact h x tail hs hx

/-- Before a notification anything may be done. -/
theorem followed_append_notify (hkind : kind .notify = false) (front : List Action) :
    Followed kind (front ++ [.notify]) := by
  induction front with
  | nil => exact followed_of_none fun x hx ↦ List.mem_singleton.mp hx ▸ hkind
  | cons action front ih =>
    exact ih.cons fun _ ↦ ⟨.notify, List.mem_append_right _ List.mem_cons_self, rfl⟩

end

theorem followed_abandoned : Followed Action.makesRoom Acquire.abandoned := by
  apply followed_of_none
  simp [Acquire.abandoned, Action.makesRoom]

theorem followed_adopted (a : Acquire) (m : Nat) :
    Followed Action.makesRoom (a.adopted m) ∧ Followed Action.freesPermit (a.adopted m) := by
  rw [Acquire.adopted]
  constructor
  all_goals
    apply followed_of_none
    split
    all_goals simp [Action.makesRoom, Action.freesPermit]

theorem followed_unadopted (a : Acquire) (m : Nat) :
    Followed Action.makesRoom (a.unadopted m) := by
  rw [Acquire.unadopted]
  split
  · apply followed_of_none
    simp [Action.makesRoom]
  · have hend : Followed Action.makesRoom [.notify, .leaveCreation] := by
      apply followed_of_none
      simp [Action.makesRoom]
    have hlease : Followed Action.makesRoom [.dropLease m, .notify, .leaveCreation] :=
      hend.cons fun _ ↦ ⟨.notify, List.mem_cons_self, rfl⟩
    refine Followed.cons (hlease.cons ?_) ?_
    all_goals simp [Action.makesRoom]

/-! ## Acquisitions that listen -/

end Pool

namespace AcquireStage

/-- The count of changes that an acquisition listens from. -/
def seen? : AcquireStage → Option Nat
  | .choosing seen | .reserving seen | .sharing seen | .deciding seen | .waiting seen _ => some seen
  | _ => none

/-- There was no permit when the acquisition looked. -/
def foundNoPermit : AcquireStage → Bool
  | .sharing _ | .deciding _ | .waiting _ _ => true
  | _ => false

/-- There was nothing to share when the acquisition looked. -/
def foundNoLease : AcquireStage → Bool
  | .deciding _ | .waiting _ _ => true
  | _ => false

variable {κ : Type} [Closable κ] {p p' : Pool κ} {st st' : AcquireStage}

/-- The acquisition ends without a connection. -/
def failing : AcquireStage → Bool
  | .ending _ (.failed _) | .ending _ .aborted => true
  | _ => false

theorem Passes.followed (h : st.Passes p st' p') (hst : Pool.Followed Action.makesRoom st.rest) :
    Pool.Followed Action.makesRoom st'.rest := by
  cases h with
  | adopt a m => exact (Pool.followed_adopted a m).1
  | unadopted a m => exact Pool.followed_unadopted a m
  | abandon => exact Pool.followed_abandoned
  | act => exact hst.tail
  | _ => exact Pool.followed_nil

theorem Passes.followed_or_failing (h : st.Passes p st' p')
    (hst : Pool.Followed Action.freesPermit st.rest ∨ st.failing = true) :
    Pool.Followed Action.freesPermit st'.rest ∨ st'.failing = true := by
  cases h with
  | adopt a m => exact .inl (Pool.followed_adopted a m).2
  | unadopted => exact .inr rfl
  | act action rest o =>
    refine hst.imp Pool.Followed.tail fun hfailing ↦ ?_
    cases o with
    | failed | aborted => rfl
    | _ => exact nomatch hfailing
  | abandon _ ho =>
    refine .inr ?_
    rcases ho with ⟨_, rfl⟩ | rfl
    all_goals rfl
  | _ => exact .inl Pool.followed_nil

theorem Passes.seen?_eq (h : st.Passes p st' p') {n : Nat} (hn : st'.seen? = some n) :
    n = p.changes ∨ st.seen? = some n := by
  cases h with
  | listen => exact .inl (Option.some.inj hn).symm
  | busy | noPermit | noShare | wait => exact .inr hn
  | _ => exact nomatch hn

theorem Passes.foundNoPermit (h : st.Passes p st' p') (hst : st'.foundNoPermit = true) :
    p' = p ∧ (p.permits = 0 ∨ st.foundNoPermit = true ∧ st.seen? = st'.seen?) := by
  cases h with
  | noPermit hnone => exact ⟨rfl, .inl hnone⟩
  | noShare | wait => exact ⟨rfl, .inr ⟨rfl, rfl⟩⟩
  | _ => exact nomatch hst

theorem Passes.foundNoLease (h : st.Passes p st' p') (hst : st'.foundNoLease = true) :
    p' = p ∧ (p.pickLeastLeased = none ∨ st.foundNoLease = true ∧ st.seen? = st'.seen?) := by
  cases h with
  | noShare hnone => exact ⟨rfl, .inl hnone⟩
  | wait => exact ⟨rfl, .inr ⟨rfl, rfl⟩⟩
  | _ => exact nomatch hst

end AcquireStage

namespace Pool

variable {κ : Type} [Closable κ]

namespace Task

def seen? : Task → Option Nat
  | acquire a => a.stage.seen?
  | _ => none

def foundNoPermit : Task → Bool
  | acquire a => a.stage.foundNoPermit
  | _ => false

def foundNoLease : Task → Bool
  | acquire a => a.stage.foundNoLease
  | _ => false

def failing : Task → Bool
  | acquire a => a.stage.failing
  | _ => false

/-- A member is about to come into the pool or to be watched. -/
def Names (k : Task) (m : Nat) : Prop := m ∈ k.inHand ∨ .watch m ∈ k.rest

/-- The task will see to it that a member is pruned when it has closed. -/
def Guards (k : Task) (p : Pool κ) (m : Nat) : Prop :=
  .watch m ∈ k.rest ∨ p.isClosedAt m = true ∧ .prune ∈ k.rest

end Task

/-! ## Steps -/

/-- No open connection in the pool may be leased once more. -/
def Saturated (p : Pool κ) : Prop :=
  ∀ m ∈ p.slots, p.isClosedAt m = false → p.config.maxLeases ≤ p.leasesOf m

omit [Closable κ] in
theorem leastLeased_eq_none {p : Pool κ} {ms : List Nat} (h : p.leastLeased ms = none) :
    ms = [] := by
  cases ms with
  | nil => rfl
  | cons m ms =>
    rw [leastLeased] at h
    split at h
    · exact nomatch h
    · split at h
      all_goals exact nomatch h

theorem saturated_of_pickLeastLeased {p : Pool κ} (h : p.pickLeastLeased = none) :
    p.Saturated := by
  intro m hm hopen
  have hnone := leastLeased_eq_none h
  rw [List.filter_eq_nil_iff] at hnone
  have hm := hnone m hm
  rw [hopen] at hm
  simpa using hm

/-- A step makes no room for leases and tells nobody. -/
structure MakesNoRoom (p p' : Pool κ) : Prop where
  changes_eq : p'.changes = p.changes
  config_eq : p'.config = p.config
  slots_subset : p'.slots ⊆ p.slots
  leases_le : ∀ m, p.leasesOf m ≤ p'.leasesOf m

omit [Closable κ] in
theorem MakesNoRoom.refl (p : Pool κ) : MakesNoRoom p p :=
  ⟨rfl, rfl, fun _ hm ↦ hm, fun _ ↦ Nat.le_refl _⟩

omit [Closable κ] in
theorem leases_le_modifyMember (p : Pool κ) (n : Nat) {f : Member κ → Member κ}
    (hf : ∀ x, x.leases ≤ (f x).leases) (m : Nat) :
    p.leasesOf m ≤ (p.modifyMember n f).leasesOf m := by
  rw [leasesOf, leasesOf, modifyMember, List.getElem?_modify]
  cases p.members[m]? with
  | none => exact Nat.le_refl _
  | some x =>
    by_cases hn : n = m
    · simpa [hn] using hf x
    · simp [hn]

omit [Closable κ] in
theorem makesNoRoom_modifyMember (p : Pool κ) (n : Nat) {f : Member κ → Member κ}
    (hf : ∀ x, x.leases ≤ (f x).leases) : MakesNoRoom p (p.modifyMember n f) :=
  ⟨rfl, rfl, fun _ hm ↦ hm, p.leases_le_modifyMember n hf⟩

omit [Closable κ] in
theorem makesNoRoom_addMember (p : Pool κ) (c : κ) : MakesNoRoom p (p.addMember c).2 := by
  refine ⟨rfl, rfl, fun _ hm ↦ hm, fun m ↦ ?_⟩
  rw [leasesOf, leasesOf, addMember, List.getElem?_append]
  split
  · exact Nat.le_refl _
  · next hle =>
    rw [List.getElem?_eq_none (Nat.le_of_not_lt hle)]
    exact Nat.zero_le _

theorem prune_of_open {p : Pool κ} (h : ∀ m ∈ p.slots, p.isClosedAt m = false) :
    p.prune = p := by
  have hkept : (p.slots.filter fun m ↦ !p.isClosedAt m) = p.slots := by
    rw [List.filter_eq_self]
    intro m hm
    rw [h m hm]
    rfl
  rw [prune, hkept, Nat.sub_self]
  rfl

/-- What an action does for those who wait. -/
theorem perform_cases (p : Pool κ) (action : Action) :
    p.changes < (p.perform action).changes ∨ action.makesRoom = true ∨
      MakesNoRoom p (p.perform action) ∧
        (action ≠ .returnPermit → (p.perform action).permits ≤ p.permits) := by
  have hsame : MakesNoRoom p p := .refl p
  cases action with
  | notify | leaveCreation => exact .inl (Nat.lt_succ_self _)
  | dropLease | prune => exact .inr (.inl rfl)
  | returnPermit =>
    refine .inr (.inr ⟨⟨rfl, rfl, fun _ hm ↦ hm, fun _ ↦ Nat.le_refl _⟩, fun h ↦ ?_⟩)
    exact absurd rfl h
  | close m reason =>
    exact .inr (.inr ⟨p.makesNoRoom_modifyMember m fun x ↦ Nat.le_refl _, fun _ ↦ Nat.le_refl _⟩)
  | watch m =>
    refine .inr (.inr ⟨⟨rfl, rfl, fun _ hm ↦ hm, fun _ ↦ Nat.le_refl _⟩, fun _ ↦ ?_⟩)
    exact Nat.le_refl _

/-- A member is in the pool or watched. -/
def Names (p : Pool κ) (m : Nat) : Prop := m ∈ p.slots ∨ m ∈ p.watched

theorem names_perform {p : Pool κ} {action : Action} {rest : List Action} {m : Nat}
    (hm : (p.perform action).Names m) : p.Names m ∨ m ∈ [] ∨ .watch m ∈ action :: rest := by
  cases action with
  | prune => exact .inl (hm.imp_left fun hm ↦ (List.mem_filter.mp hm).1)
  | watch n =>
    rcases hm with hm | hm
    · exact .inl (.inl hm)
    · rcases List.mem_append.mp hm with hm | hm
      · exact .inl (.inr hm)
      · obtain rfl := List.mem_singleton.mp hm
        exact .inr (.inr List.mem_cons_self)
  | _ => exact .inl hm

theorem changes_perform {p : Pool κ} {action : Action} (h : action.notifies = true) :
    p.changes < (p.perform action).changes := by
  cases action with
  | notify | leaveCreation => exact Nat.lt_succ_self _
  | _ => exact nomatch h

end Pool

namespace AcquireStage

variable {κ : Type} [Closable κ] {p p' : Pool κ} {st st' : AcquireStage}

/-- A step that is not one of the last actions makes room only by putting a connection into the
pool, and then it is to tell. -/
theorem Passes.outcome (h : st.Passes p st' p') (hst : st.rest = [])
    (hopen : ∀ m ∈ p.slots, p.isClosedAt m = false) :
    p.changes < p'.changes ∨ (∃ x ∈ st'.rest, x.notifies = true) ∨
      Pool.MakesNoRoom p p' ∧ p'.permits ≤ p.permits := by
  have hleases (q : Pool κ) (m : Nat) : Pool.MakesNoRoom q (q.addLease m) :=
    q.makesNoRoom_modifyMember m fun x ↦ Nat.le_succ x.leases
  have hsame : Pool.MakesNoRoom p p ∧ p.permits ≤ p.permits := ⟨.refl p, Nat.le_refl _⟩
  cases h with
  | idle seen m =>
    rw [Pool.prune_of_open hopen]
    exact .inr (.inr ⟨hleases p m, Nat.le_refl _⟩)
  | busy seen =>
    rw [Pool.prune_of_open hopen]
    exact .inr (.inr hsame)
  | share _ m | lend m => exact .inr (.inr ⟨hleases p m, Nat.le_refl _⟩)
  | reserve =>
    exact .inr (.inr ⟨⟨rfl, rfl, fun _ hm ↦ hm, fun _ ↦ Nat.le_refl _⟩, Nat.sub_le _ _⟩)
  | enter | attempt =>
    exact .inr (.inr ⟨⟨rfl, rfl, fun _ hm ↦ hm, fun _ ↦ Nat.le_refl _⟩, Nat.le_refl _⟩)
  | keep => exact .inl (Nat.lt_succ_self _)
  | adopt a m =>
    refine .inr (.inl ⟨.notify, ?_, rfl⟩)
    change Action.notify ∈ a.adopted m
    rw [Acquire.adopted]
    split
    all_goals exact List.mem_cons_self
  | act => exact nomatch hst
  | connect made generation c =>
    exact .inr (.inr ⟨p.makesNoRoom_addMember c, Nat.le_refl _⟩)
  | check | quit | again | listen | noPermit | resume | unadopted | noShare | wait | retry
  | abandon => exact .inr (.inr hsame)

/-- The members that come into the pool are to be watched. -/
theorem Passes.enters (h : st.Passes p st' p') {m : Nat} (hm : m ∈ p'.slots) :
    m ∈ p.slots ∨ .watch m ∈ st'.rest := by
  cases h with
  | idle | busy => exact .inl (List.mem_filter.mp hm).1
  | adopt a n =>
    rcases List.mem_append.mp hm with hm | hm
    · exact .inl hm
    · obtain rfl := List.mem_singleton.mp hm
      refine .inr ?_
      change Action.watch m ∈ a.adopted m
      rw [Acquire.adopted]
      split
      all_goals exact List.mem_cons_of_mem _ List.mem_cons_self
  | act action =>
    cases action with
    | prune => exact .inl (List.mem_filter.mp hm).1
    | _ => exact .inl hm
  | _ => exact .inl hm

theorem Passes.watched_subset (h : st.Passes p st' p') : p.watched ⊆ p'.watched := by
  cases h with
  | act action =>
    cases action with
    | watch => exact List.subset_append_left _ _
    | _ => exact List.Subset.refl _
  | _ => exact List.Subset.refl _

theorem Passes.length_members_le (h : st.Passes p st' p') :
    p.members.length ≤ p'.members.length := by
  have hmodify (q : Pool κ) (n : Nat) (f : Member κ → Member κ) :
      q.members.length ≤ (q.modifyMember n f).members.length :=
    Nat.le_of_eq (List.length_modify _ _ _).symm
  cases h with
  | idle | share | lend => exact hmodify _ _ _
  | act action =>
    cases action with
    | dropLease | close => exact hmodify _ _ _
    | _ => exact Nat.le_refl _
  | connect made generation c =>
    rw [Pool.addMember, List.length_append]
    exact Nat.le_add_right _ _
  | _ => exact Nat.le_refl _

theorem Passes.changes_le (h : st.Passes p st' p') : p.changes ≤ p'.changes := by
  cases h with
  | act action =>
    cases action with
    | notify | leaveCreation => exact Nat.le_succ _
    | _ => exact Nat.le_refl _
  | keep => exact Nat.le_succ _
  | _ => exact Nat.le_refl _

/-- Only members that there are are named. -/
theorem Passes.names (h : st.Passes p st' p') {m : Nat}
    (hm : p'.Names m ∨ m ∈ st'.inHand ∨ .watch m ∈ st'.rest) :
    (p.Names m ∨ m ∈ st.inHand ∨ .watch m ∈ st.rest) ∨ m < p'.members.length := by
  cases h with
  | idle | busy =>
    rcases hm with (hm | hm) | hm | hm
    · exact .inl (.inl (.inl (List.mem_filter.mp hm).1))
    · exact .inl (.inl (.inr hm))
    · cases hm
    · cases hm
  | adopt a n =>
    refine .inl ?_
    rcases hm with (hm | hm) | hm | hm
    · rcases List.mem_append.mp hm with hm | hm
      · exact .inl (.inl hm)
      · exact .inr (.inl hm)
    · exact .inl (.inr hm)
    · cases hm
    · change Action.watch m ∈ a.adopted n at hm
      obtain rfl : m = n := by
        rw [Acquire.adopted] at hm
        split at hm
        all_goals simpa using hm
      exact .inr (.inl List.mem_cons_self)
  | unadopted a n =>
    rcases hm with hm | hm | hm
    · exact .inl (.inl hm)
    · cases hm
    · change Action.watch m ∈ a.unadopted n at hm
      rw [Acquire.unadopted] at hm
      split at hm
      all_goals simp at hm
  | act action rest o =>
    refine .inl ?_
    rcases hm with hm | hm | hm
    · exact Pool.names_perform hm
    · cases hm
    · exact .inr (.inr (List.mem_cons_of_mem _ hm))
  | connect made generation c =>
    rcases hm with hm | hm | hm
    · exact .inl (.inl hm)
    · obtain rfl := List.mem_singleton.mp hm
      refine .inr ?_
      simp [Pool.addMember]
    · cases hm
  | lend | keep => exact .inl hm
  | abandon =>
    rcases hm with hm | hm | hm
    · exact .inl (.inl hm)
    · cases hm
    · simp [rest, Acquire.abandoned] at hm
  | _ =>
    rcases hm with hm | hm | hm
    · exact .inl (.inl hm)
    · cases hm
    · cases hm

end AcquireStage

namespace Pool

variable {κ : Type} [Closable κ]

namespace Moves

variable {k k' : Task} {p p' : Pool κ} {m : Nat}

theorem followed (h : Moves k p k' p') (hk : Followed Action.makesRoom k.rest) :
    Followed Action.makesRoom k'.rest := by
  cases h with
  | acquire h => exact (Acquire.passes_of_moves h).followed hk
  | chore => exact hk.tail
  | close | closeNone => exact followed_nil
  | drain => exact followed_append_notify rfl _

/-- Permits are returned in time, but for an acquisition that has failed. -/
theorem followed_or_failing (h : Moves k p k' p')
    (hk : Followed Action.freesPermit k.rest ∨ k.failing = true) :
    Followed Action.freesPermit k'.rest ∨ k'.failing = true := by
  cases h with
  | acquire h => exact (Acquire.passes_of_moves h).followed_or_failing hk
  | chore => exact hk.imp_left Followed.tail
  | close | closeNone => exact .inl followed_nil
  | drain => exact .inl (followed_append_notify rfl _)

/-- **What comes into the pool, and makes room so, is to be told of.** -/
theorem outcome (h : Moves k p k' p') (hk : Followed Action.makesRoom k.rest)
    (hopen : ∀ m ∈ p.slots, p.isClosedAt m = false) :
    p.changes < p'.changes ∨ (∃ x ∈ k'.rest, x.notifies = true) ∨
      MakesNoRoom p p' ∧ (p'.permits ≤ p.permits ∨
        k.rest = .returnPermit :: k'.rest ∧ p' = p.perform .returnPermit) := by
  rcases h.rest_eq with ⟨action, hrest, rfl⟩ | hrest
  · rcases p.perform_cases action with htold | hroom | ⟨hnone, hpermits⟩
    · exact .inl htold
    · exact .inr (.inl (hk action k'.rest (hrest ▸ List.suffix_rfl) hroom))
    · refine .inr (.inr ⟨hnone, ?_⟩)
      by_cases hreturn : action = .returnPermit
      · subst hreturn
        exact .inr ⟨hrest, rfl⟩
      · exact .inl (hpermits hreturn)
  · have hquiet : p.changes < p'.changes ∨ (∃ x ∈ k'.rest, x.notifies = true) ∨
        MakesNoRoom p p' ∧ p'.permits ≤ p.permits := by
      cases h with
      | acquire h => exact (Acquire.passes_of_moves h).outcome hrest hopen
      | chore => exact nomatch hrest
      | close | closeNone =>
        exact .inr (.inr ⟨⟨rfl, rfl, fun _ hm ↦ hm, fun _ ↦ Nat.le_refl _⟩, Nat.le_refl _⟩)
      | drain => exact .inr (.inr ⟨⟨rfl, rfl, nofun, fun _ ↦ Nat.le_refl _⟩, Nat.le_refl _⟩)
    exact hquiet.imp_right (·.imp_right (·.imp_right .inl))

theorem seen?_eq (h : Moves k p k' p') {n : Nat} (hn : k'.seen? = some n) :
    n = p.changes ∨ k.seen? = some n := by
  cases h with
  | acquire h => exact (Acquire.passes_of_moves h).seen?_eq hn
  | _ => exact nomatch hn

theorem foundNoPermit (h : Moves k p k' p') (hk : k'.foundNoPermit = true) :
    p' = p ∧ (p.permits = 0 ∨ k.foundNoPermit = true ∧ k.seen? = k'.seen?) := by
  cases h with
  | acquire h => exact (Acquire.passes_of_moves h).foundNoPermit hk
  | _ => exact nomatch hk

theorem foundNoLease (h : Moves k p k' p') (hk : k'.foundNoLease = true) :
    p' = p ∧ (p.Saturated ∨ k.foundNoLease = true ∧ k.seen? = k'.seen?) := by
  cases h with
  | acquire h =>
    have hfound := (Acquire.passes_of_moves h).foundNoLease hk
    exact hfound.imp_right (·.imp_left saturated_of_pickLeastLeased)
  | _ => exact nomatch hk

theorem enters (h : Moves k p k' p') (hm : m ∈ p'.slots) : m ∈ p.slots ∨ .watch m ∈ k'.rest := by
  cases h with
  | acquire h => exact (Acquire.passes_of_moves h).enters hm
  | chore action rest => exact (AcquireStage.Passes.act action rest .aborted p).enters hm
  | close | closeNone => exact .inl hm
  | drain => exact nomatch hm

theorem watched_subset (h : Moves k p k' p') : p.watched ⊆ p'.watched := by
  cases h with
  | acquire h => exact (Acquire.passes_of_moves h).watched_subset
  | chore action rest => exact (AcquireStage.Passes.act action rest .aborted p).watched_subset
  | close | closeNone | drain => exact List.Subset.refl _

theorem length_members_le (h : Moves k p k' p') : p.members.length ≤ p'.members.length := by
  cases h with
  | acquire h => exact (Acquire.passes_of_moves h).length_members_le
  | chore action rest => exact (AcquireStage.Passes.act action rest .aborted p).length_members_le
  | close | closeNone | drain => exact Nat.le_refl _

theorem changes_le (h : Moves k p k' p') : p.changes ≤ p'.changes := by
  cases h with
  | acquire h => exact (Acquire.passes_of_moves h).changes_le
  | chore action rest => exact (AcquireStage.Passes.act action rest .aborted p).changes_le
  | close | closeNone | drain => exact Nat.le_refl _

theorem names (h : Moves k p k' p') (hm : p'.Names m ∨ k'.Names m) :
    (p.Names m ∨ k.Names m) ∨ m < p'.members.length := by
  cases h with
  | acquire h => exact (Acquire.passes_of_moves h).names hm
  | chore action rest => exact (AcquireStage.Passes.act action rest .aborted p).names hm
  | close | closeNone => exact .inl hm
  | drain =>
    refine .inl (.inl ?_)
    rcases hm with (hm | hm) | hm | hm
    · exact nomatch hm
    · exact .inr hm
    · exact nomatch hm
    · simp [Task.rest, drainedActions] at hm

end Moves

end Pool

end RpcTransport
