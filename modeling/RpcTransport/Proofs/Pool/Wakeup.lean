import Mathlib.Logic.Relation
import RpcTransport.Proofs.Pool.Notifications

/-!
# Who waits is woken

An acquisition that waits has looked for a permit and for a lease and found neither, and listens
since before it looked. What changed since then was told, or somebody is about to tell: whoever made
room has the notification ahead of it, and each connection in the pool is watched by somebody who
will prune it once it has closed, and tell (`System.Owing`). So when nobody owes a notification,
there is nothing that an acquisition which still waits could share.

With permits it is another matter. A creation that ends without a connection tells the others
first, and returns its permit after that (`System.ReturnsLate`). Who is told in between looks again,
finds no permit, and goes to sleep; and of the permit that is there a moment later nobody tells.
A permit that is free while somebody sleeps was returned so, and nothing has been told since
(`System.Calm`).
-/

namespace RpcTransport

open Pool (Action)

namespace Pool

variable {κ : Type} [Closable κ]

/-- What makes room for leases, or makes a permit free, is a change of the pool. -/
theorem MakesNoRoom.saturated {p p' : Pool κ} (h : MakesNoRoom p p')
    (hopen : ∀ m ∈ p.slots, p.isClosedAt m = false) (hp : p.Saturated) : p'.Saturated := by
  intro m hm _
  have hslot : m ∈ p.slots := h.slots_subset hm
  rw [h.config_eq]
  exact Nat.le_trans (hp m hslot (hopen m hslot)) (h.leases_le m)

namespace System

variable {s s' : System κ}

/-- Somebody has yet to tell those who wait: a task has a notification ahead of it, or a connection
that is watched, or about to be, has closed. -/
def Owing (s : System κ) : Prop :=
  (∃ k ∈ s.tasks, ∃ x ∈ k.rest, x.notifies = true) ∨
    ∃ m, s.pool.isClosedAt m = true ∧ (m ∈ s.pool.watched ∨ ∃ k ∈ s.tasks, .watch m ∈ k.rest)

theorem not_owing (htasks : ∀ k ∈ s.tasks, k.rest = [])
    (hwatched : ∀ m ∈ s.pool.watched, s.pool.isClosedAt m = false) : ¬ s.Owing := by
  rintro (⟨k, hk, x, hx, -⟩ | ⟨m, hclosed, hm | ⟨k, hk, hx⟩⟩)
  · exact nomatch htasks k hk ▸ hx
  · exact nomatch hclosed.symm.trans (hwatched m hm)
  · exact nomatch htasks k hk ▸ hx

/-- A task that has no notification left returns a permit. -/
def ReturnsLate (s s' : System κ) : Prop :=
  ∃ i k k', s.tasks[i]? = some k ∧ k.rest = .returnPermit :: k'.rest ∧
    (∀ x ∈ k'.rest, x.notifies = false) ∧ s' = ⟨s.pool.perform .returnPermit, s.tasks.set i k'⟩

theorem ReturnsLate.permits (h : s.ReturnsLate s') : s'.pool.permits = s.pool.permits + 1 := by
  obtain ⟨i, k, k', -, -, -, rfl⟩ := h
  rfl

/-- Whoever looked in vain, and was told of nothing since, would look in vain again. -/
def InVain (found : Task → Bool) (Q : Pool κ → Prop) (s : System κ) : Prop :=
  s.Owing ∨ ∀ k ∈ s.tasks, found k = true → k.seen? = some s.pool.changes → Q s.pool

structure Attentive (s : System κ) : Prop where
  followed : ∀ k ∈ s.tasks, Followed Action.makesRoom k.rest
  prompt : ∀ k ∈ s.tasks, Followed Action.freesPermit k.rest ∨ k.failing = true
  known : ∀ m, (s.pool.Names m ∨ ∃ k ∈ s.tasks, k.Names m) → m < s.pool.members.length
  seen_le : ∀ k ∈ s.tasks, ∀ n, k.seen? = some n → n ≤ s.pool.changes
  guarded : ∀ m ∈ s.pool.slots, m ∈ s.pool.watched ∨ ∃ k ∈ s.tasks, k.Guards s.pool m

/-- When nobody owes a notification, no connection in the pool is closed. -/
theorem Attentive.isClosedAt_eq_false (hs : s.Attentive) (hquiet : ¬ s.Owing) {m : Nat}
    (hm : m ∈ s.pool.slots) : s.pool.isClosedAt m = false := by
  rw [← Bool.not_eq_true]
  intro hclosed
  apply hquiet
  rcases hs.guarded m hm with hwatched | ⟨k, hk, hwatch | ⟨-, hprune⟩⟩
  · exact .inr ⟨m, hclosed, .inl hwatched⟩
  · exact .inr ⟨m, hclosed, .inr ⟨k, hk, hwatch⟩⟩
  · obtain ⟨front, tail, hrest⟩ := List.append_of_mem hprune
    obtain ⟨x, hx, hnotifies⟩ := hs.followed k hk .prune tail ⟨front, hrest.symm⟩ rfl
    refine .inl ⟨k, hk, x, ?_, hnotifies⟩
    rw [hrest]
    exact List.mem_append_right _ (List.mem_cons_of_mem _ hx)

/-! ## A task comes in -/

section Append

variable {p : Pool κ} {ks : List Task} {k : Task}

theorem Owing.append (h : Owing ⟨p, ks⟩) (k : Task) : Owing ⟨p, ks ++ [k]⟩ := by
  rcases h with ⟨l, hl, hx⟩ | ⟨m, hclosed, hm⟩
  · exact .inl ⟨l, List.mem_append_left _ hl, hx⟩
  · refine .inr ⟨m, hclosed, hm.imp_right ?_⟩
    rintro ⟨l, hl, hwatch⟩
    exact ⟨l, List.mem_append_left _ hl, hwatch⟩

theorem Attentive.append (hs : Attentive ⟨p, ks⟩) (hfollowed : Followed Action.makesRoom k.rest)
    (hprompt : Followed Action.freesPermit k.rest) (hnames : ∀ m, ¬ k.Names m)
    (hseen : ∀ n, k.seen? = some n → n ≤ p.changes) : Attentive ⟨p, ks ++ [k]⟩ := by
  constructor
  · intro l hl
    rcases List.mem_append.mp hl with hl | hl
    · exact hs.followed l hl
    · exact List.mem_singleton.mp hl ▸ hfollowed
  · intro l hl
    rcases List.mem_append.mp hl with hl | hl
    · exact hs.prompt l hl
    · exact List.mem_singleton.mp hl ▸ .inl hprompt
  · rintro m (hm | ⟨l, hl, hm⟩)
    · exact hs.known m (.inl hm)
    · rcases List.mem_append.mp hl with hl | hl
      · exact hs.known m (.inr ⟨l, hl, hm⟩)
      · exact absurd (List.mem_singleton.mp hl ▸ hm) (hnames m)
  · intro l hl n hn
    rcases List.mem_append.mp hl with hl | hl
    · exact hs.seen_le l hl n hn
    · exact hseen n (List.mem_singleton.mp hl ▸ hn)
  · intro m hm
    refine (hs.guarded m hm).imp_right ?_
    rintro ⟨l, hl, hguards⟩
    exact ⟨l, List.mem_append_left _ hl, hguards⟩

theorem InVain.append {found : Task → Bool} {Q : Pool κ → Prop} (h : InVain found Q ⟨p, ks⟩)
    (hseen : k.seen? = none) : InVain found Q ⟨p, ks ++ [k]⟩ := by
  refine h.imp (Owing.append · k) fun h l hl hfound hlseen ↦ ?_
  rcases List.mem_append.mp hl with hl | hl
  · exact h l hl hfound hlseen
  · rw [List.mem_singleton.mp hl, hseen] at hlseen
    exact nomatch hlseen

end Append

/-! ## A task moves -/

section Move

variable [LawfulClosable κ] {i : Nat} {k k' : Task} {p : Pool κ}

theorem Attentive.isClosedAt (hs : s.Attentive) (h : Moves k s.pool k' p) {m : Nat}
    (hm : s.pool.Names m ∨ ∃ l ∈ s.tasks, l.Names m) (hclosed : s.pool.isClosedAt m = true) :
    p.isClosedAt m = true := by
  rcases h.isClosedAt_or hclosed with hclosed | ⟨hnew, -⟩
  · exact hclosed
  · exact absurd hnew (Nat.ne_of_lt (hs.known m hm))

/-- Who owes a notification gives it, or still owes it. -/
theorem Owing.move (ho : s.Owing) (hs : s.Attentive) (hi : s.tasks[i]? = some k)
    (h : Moves k s.pool k' p) : Owing ⟨p, s.tasks.set i k'⟩ ∨ s.pool.changes < p.changes := by
  have hk' : k' ∈ s.tasks.set i k' := mem_set_self hi k'
  rcases ho with ⟨l, hl, x, hx, hnotifies⟩ | ⟨m, hclosed, hm⟩
  · rcases mem_set_or_eq hi hl k' with hl | rfl
    · exact .inl (.inl ⟨l, hl, x, hx, hnotifies⟩)
    · rcases h.rest_eq with ⟨action, hrest, rfl⟩ | hrest
      · rw [hrest] at hx
        rcases List.mem_cons.mp hx with rfl | hx
        · exact .inr (changes_perform hnotifies)
        · exact .inl (.inl ⟨k', hk', x, hx, hnotifies⟩)
      · rw [hrest] at hx
        exact nomatch hx
  · refine .inl (.inr ⟨m, hs.isClosedAt h ?_ hclosed, ?_⟩)
    · rcases hm with hm | ⟨l, hl, hwatch⟩
      · exact .inl (.inr hm)
      · exact .inr ⟨l, hl, .inr hwatch⟩
    · rcases hm with hm | ⟨l, hl, hwatch⟩
      · exact .inl (h.watched_subset hm)
      · rcases mem_set_or_eq hi hl k' with hl | rfl
        · exact .inr ⟨l, hl, hwatch⟩
        · rcases h.rest_eq with ⟨action, hrest, rfl⟩ | hrest
          · rw [hrest] at hwatch
            rcases List.mem_cons.mp hwatch with rfl | hwatch
            · exact .inl (List.mem_append_right _ List.mem_cons_self)
            · exact .inr ⟨k', hk', hwatch⟩
          · rw [hrest] at hwatch
            exact nomatch hwatch

omit [LawfulClosable κ] in
theorem Attentive.seen_le_before (hs : s.Attentive) (hi : s.tasks[i]? = some k)
    (h : Moves k s.pool k' p) {l : Task} (hl : l ∈ s.tasks.set i k') {n : Nat}
    (hn : l.seen? = some n) : n ≤ s.pool.changes := by
  rcases List.mem_or_eq_of_mem_set hl with hl | rfl
  · exact hs.seen_le l hl n hn
  · rcases h.seen?_eq hn with rfl | hn
    · exact Nat.le_refl _
    · exact hs.seen_le k (List.mem_of_getElem? hi) n hn

theorem Attentive.move (hs : s.Attentive) (hi : s.tasks[i]? = some k)
    (h : Moves k s.pool k' p) :
    Attentive ⟨p, s.tasks.set i k'⟩ := by
  have hk : k ∈ s.tasks := List.mem_of_getElem? hi
  have hk' : k' ∈ s.tasks.set i k' := mem_set_self hi k'
  constructor
  · intro l hl
    rcases List.mem_or_eq_of_mem_set hl with hl | rfl
    · exact hs.followed l hl
    · exact h.followed (hs.followed k hk)
  · intro l hl
    rcases List.mem_or_eq_of_mem_set hl with hl | rfl
    · exact hs.prompt l hl
    · exact h.followed_or_failing (hs.prompt k hk)
  · intro m hm
    have hmoved (hm : p.Names m ∨ k'.Names m) : m < p.members.length := by
      rcases h.names hm with (hm | hm) | hm
      · exact Nat.lt_of_lt_of_le (hs.known m (.inl hm)) h.length_members_le
      · exact Nat.lt_of_lt_of_le (hs.known m (.inr ⟨k, hk, hm⟩)) h.length_members_le
      · exact hm
    rcases hm with hm | ⟨l, hl, hm⟩
    · exact hmoved (.inl hm)
    · rcases List.mem_or_eq_of_mem_set hl with hl | rfl
      · exact Nat.lt_of_lt_of_le (hs.known m (.inr ⟨l, hl, hm⟩)) h.length_members_le
      · exact hmoved (.inr hm)
  · intro l hl n hn
    exact Nat.le_trans (hs.seen_le_before hi h hl hn) h.changes_le
  · intro m hm
    change m ∈ p.slots at hm
    rcases h.enters hm with hslot | hwatch
    · have hstays := hs.isClosedAt h (.inl (.inl hslot))
      rcases hs.guarded m hslot with hwatched | ⟨l, hl, hguards⟩
      · exact .inl (h.watched_subset hwatched)
      · rcases mem_set_or_eq hi hl k' with hl | rfl
        · exact .inr ⟨l, hl, hguards.imp_right (·.imp_left hstays)⟩
        · rcases h.rest_eq with ⟨action, hrest, rfl⟩ | hrest
          · rw [Task.Guards, hrest] at hguards
            rcases hguards with hwatch | ⟨hclosed, hprune⟩
            · rcases List.mem_cons.mp hwatch with rfl | hwatch
              · exact .inl (List.mem_append_right _ List.mem_cons_self)
              · exact .inr ⟨k', hk', .inl hwatch⟩
            · rcases List.mem_cons.mp hprune with rfl | hprune
              · -- A closed connection does not survive the pruning.
                have hopen := (List.mem_filter.mp hm).2
                rw [hclosed] at hopen
                exact nomatch hopen
              · exact .inr ⟨k', hk', .inr ⟨hstays hclosed, hprune⟩⟩
          · rw [Task.Guards, hrest] at hguards
            rcases hguards with hwatch | ⟨-, hprune⟩
            · exact nomatch hwatch
            · exact nomatch hprune
    · exact .inr ⟨k', hk', .inl hwatch⟩

/-- What is in vain stays so while nobody tells, if moves that make no room keep it so. -/
theorem InVain.move {found : Task → Bool} {Q : Pool κ → Prop} (hv : InVain found Q s)
    (hs : s.Attentive) (hi : s.tasks[i]? = some k) (h : Moves k s.pool k' p)
    (hkeeps : (∀ m ∈ s.pool.slots, s.pool.isClosedAt m = false) → MakesNoRoom s.pool p →
      (p.permits ≤ s.pool.permits ∨
        k.rest = .returnPermit :: k'.rest ∧ p = s.pool.perform .returnPermit) →
      ¬ Owing ⟨p, s.tasks.set i k'⟩ → Q s.pool → Q p)
    (hfound : found k' = true → p = s.pool ∧ (Q s.pool ∨ found k = true ∧ k.seen? = k'.seen?)) :
    InVain found Q ⟨p, s.tasks.set i k'⟩ := by
  by_cases hquiet' : Owing ⟨p, s.tasks.set i k'⟩
  · exact .inl hquiet'
  refine .inr fun l hl hlfound hlseen ↦ ?_
  -- Whoever listens has not seen a change that this move would tell of.
  have huntold : ¬ s.pool.changes < p.changes := by
    intro htold
    exact absurd (hs.seen_le_before hi h hl hlseen) (Nat.not_le_of_lt htold)
  by_cases hquiet : s.Owing
  · rcases hquiet.move hs hi h with ho | htold
    · exact absurd ho hquiet'
    · exact absurd htold huntold
  have hopen (m : Nat) (hm : m ∈ s.pool.slots) : s.pool.isClosedAt m = false :=
    hs.isClosedAt_eq_false hquiet hm
  rcases h.outcome (hs.followed k (List.mem_of_getElem? hi)) hopen
    with htold | hnotifies | ⟨hnone, hpermits⟩
  · exact absurd htold huntold
  · exact absurd (.inl ⟨k', mem_set_self hi k', hnotifies⟩) hquiet'
  · have hbefore := hv.resolve_left hquiet
    change l.seen? = some p.changes at hlseen
    rw [hnone.changes_eq] at hlseen
    rcases List.mem_or_eq_of_mem_set hl with hl | rfl
    · exact hkeeps hopen hnone hpermits hquiet' (hbefore l hl hlfound hlseen)
    · obtain ⟨hsame, hq | ⟨hkfound, hkseen⟩⟩ := hfound hlfound
      · exact hsame ▸ hq
      · rw [hsame]
        exact hbefore k (List.mem_of_getElem? hi) hkfound (hkseen.trans hlseen)

end Move

/-! ## Steps -/

theorem names_start (config : PoolConfig) (options : AcquireOptions) (now : Nat) :
    (Task.acquire (.start config options now)).rest = [] ∧
      (Task.acquire (.start config options now)).inHand = [] ∧
      (Task.acquire (.start config options now)).seen? = none := by
  simp only [Task.rest, Task.inHand, Task.seen?]
  rcases Acquire.start_stage config options now with hstage | hstage
  all_goals
    rw [hstage]
    exact ⟨rfl, rfl, rfl⟩

theorem attentive_start (config : PoolConfig) (target : String) (now : Nat) :
    (start κ config target now).Attentive := by
  have hempty : Attentive ⟨Pool.start (κ := κ) config target, []⟩ := by
    constructor
    · exact fun _ hk ↦ (nomatch hk)
    · exact fun _ hk ↦ (nomatch hk)
    · rintro m ((hm | hm) | ⟨k, hk, -⟩)
      · exact nomatch hm
      · exact nomatch hm
      · exact nomatch hk
    · exact fun _ hk ↦ (nomatch hk)
    · exact fun _ hm ↦ (nomatch hm)
  rw [start]
  split
  · refine hempty.append followed_nil followed_nil ?_ fun n hn ↦
      Nat.le_of_eq (Option.some.inj hn).symm
    rintro m (hm | hm)
    · exact nomatch hm
    · exact nomatch hm
  · exact hempty

variable [LawfulClosable κ]

theorem Step.attentive (h : Step s s') (hs : s.Attentive) : s'.Attentive := by
  cases h with
  | acquire options now =>
    obtain ⟨hrest, hhand, hseen⟩ := names_start s.pool.config options now
    refine hs.append (hrest ▸ followed_nil) (hrest ▸ followed_nil) ?_ fun n hn ↦ ?_
    · rintro m (hm | hm)
      · cases hhand ▸ hm
      · cases hrest ▸ hm
    · cases hseen.symm.trans hn
  | release m =>
    refine hs.append (followed_append_notify rfl [_]) (followed_append_notify rfl [_]) ?_
      fun _ hseen ↦ by cases hseen
    rintro n (hn | hn)
    · cases hn
    · simp [Task.rest, releaseActions] at hn
  | closeAll =>
    refine hs.append followed_nil followed_nil ?_ fun _ hseen ↦ by cases hseen
    rintro n (hn | hn)
    · cases hn
    · cases hn
  | @wake m _ hm h =>
    constructor
    · intro l hl
      rcases List.mem_append.mp hl with hl | hl
      · exact hs.followed l hl
      · exact List.mem_singleton.mp hl ▸ followed_append_notify rfl [_]
    · intro l hl
      rcases List.mem_append.mp hl with hl | hl
      · exact hs.prompt l hl
      · exact List.mem_singleton.mp hl ▸ .inl (followed_append_notify rfl [_])
    · rintro n ((hn | hn) | ⟨l, hl, hn⟩)
      · exact hs.known n (.inl (.inl hn))
      · exact hs.known n (.inl (.inr (List.mem_of_mem_erase hn)))
      · rcases List.mem_append.mp hl with hl | hl
        · exact hs.known n (.inr ⟨l, hl, hn⟩)
        · rw [List.mem_singleton.mp hl] at hn
          simp [Task.Names, Task.inHand, Task.rest, closedActions] at hn
    · intro l hl n hn
      rcases List.mem_append.mp hl with hl | hl
      · exact hs.seen_le l hl n hn
      · rw [List.mem_singleton.mp hl] at hn
        cases hn
    · intro n hn
      by_cases hnm : n = m
      · subst hnm
        exact .inr ⟨_, List.mem_append_right _ List.mem_cons_self, .inr ⟨h, List.mem_cons_self⟩⟩
      · rcases hs.guarded n hn with hwatched | ⟨l, hl, hguards⟩
        · exact .inl ((List.mem_erase_of_ne hnm).mpr hwatched)
        · exact .inr ⟨l, List.mem_append_left _ hl, hguards⟩
  | evolve n f hf =>
    have hstays (m : Nat) (hm : s.pool.isClosedAt m = true) :=
      isClosedAt_modifyMember (f := fun x ↦ { x with connection := f x.connection })
        (fun x ↦ hf x.connection) n hm
    refine ⟨hs.followed, hs.prompt, fun m hm ↦ ?_, hs.seen_le, fun m hm ↦ ?_⟩
    · exact Nat.lt_of_lt_of_eq (hs.known m hm) (List.length_modify _ _ _).symm
    · refine (hs.guarded m hm).imp_right ?_
      rintro ⟨l, hl, hguards⟩
      exact ⟨l, hl, hguards.imp_right (·.imp_left (hstays m))⟩
  | move i hi h => exact hs.move hi h

theorem attentive_of_reachable {config : PoolConfig} {target : String} {now : Nat}
    (h : Relation.ReflTransGen Step (start κ config target now) s) : s.Attentive := by
  induction h with
  | refl => exact attentive_start config target now
  | tail _ hstep ih => exact hstep.attentive ih

omit [LawfulClosable κ] in
/-- Nobody listens from a count that a step comes to. -/
theorem Step.seen_le (h : Step s s') (hs : s.Attentive) {k : Task} (hk : k ∈ s'.tasks) {n : Nat}
    (hn : k.seen? = some n) : n ≤ s.pool.changes := by
  have happend {l : Task} (hl : l.seen? = none) (hk : k ∈ s.tasks ++ [l]) :
      n ≤ s.pool.changes := by
    rcases List.mem_append.mp hk with hk | hk
    · exact hs.seen_le k hk n hn
    · rw [List.mem_singleton.mp hk, hl] at hn
      exact nomatch hn
  cases h with
  | acquire options now => exact happend (names_start s.pool.config options now).2.2 hk
  | release | closeAll | wake => exact happend rfl hk
  | evolve => exact hs.seen_le k hk n hn
  | move i hi h => exact hs.seen_le_before hi h hk hn

/-- **What is in vain stays so until it is told**, if a permit that is returned late is not what is
looked for. -/
theorem Step.inVain {found : Task → Bool} {Q : Pool κ → Prop} (h : Step s s') (hs : s.Attentive)
    (hv : InVain found Q s)
    (hkeeps : ∀ {p : Pool κ}, (∀ m ∈ s.pool.slots, s.pool.isClosedAt m = false) →
      MakesNoRoom s.pool p → p.permits ≤ s.pool.permits ∨ s.ReturnsLate s' → Q s.pool → Q p)
    (hfound : ∀ {k k' : Task} {p : Pool κ}, Moves k s.pool k' p → found k' = true →
      p = s.pool ∧ (Q s.pool ∨ found k = true ∧ k.seen? = k'.seen?)) : InVain found Q s' := by
  cases h with
  | acquire options now => exact hv.append (names_start s.pool.config options now).2.2
  | release | closeAll => exact hv.append rfl
  | wake =>
    refine .inl (.inl ⟨_, List.mem_append_right _ List.mem_cons_self, .notify, ?_, rfl⟩)
    exact List.mem_cons_of_mem _ List.mem_cons_self
  | evolve n f hf =>
    have hnone : MakesNoRoom s.pool (s.pool.modifyMember n fun x ↦
        { x with connection := f x.connection }) :=
      s.pool.makesNoRoom_modifyMember n fun _ ↦ Nat.le_refl _
    by_cases hquiet : s.Owing
    · refine .inl (hquiet.imp_right ?_)
      rintro ⟨m, hclosed, hm⟩
      exact ⟨m, isClosedAt_modifyMember (fun x ↦ hf x.connection) n hclosed, hm⟩
    · refine .inr fun k hk hkfound hkseen ↦ ?_
      refine hkeeps (fun m ↦ hs.isClosedAt_eq_false hquiet) hnone (.inl (Nat.le_refl _)) ?_
      exact hv.resolve_left hquiet k hk hkfound hkseen
  | @move i k k' p _ hi h =>
    refine hv.move hs hi h (fun hopen hnone hpermits hquiet' hq ↦ ?_) (hfound h)
    refine hkeeps hopen hnone (hpermits.imp_right ?_) hq
    rintro ⟨hrest, rfl⟩
    refine ⟨i, k, k', hi, hrest, fun x hx ↦ ?_, rfl⟩
    rw [← Bool.not_eq_true]
    intro hnotifies
    exact hquiet' (.inl ⟨k', mem_set_self hi k', x, hx, hnotifies⟩)

/-! ## Runs -/

/-- No permit was returned late since the last notification, or since the start. -/
inductive Calm (config : PoolConfig) (target : String) (now : Nat) : System κ → Prop where
  | start : Calm config target now (start κ config target now)
  | told {s s' : System κ} (h : Relation.ReflTransGen Step (System.start κ config target now) s)
      (hstep : Step s s') (htold : s.pool.changes < s'.pool.changes) : Calm config target now s'
  | step {s s' : System κ} (h : Calm config target now s) (hstep : Step s s')
      (hlate : ¬ s.ReturnsLate s') : Calm config target now s'

section Runs

variable {config : PoolConfig} {target : String} {now : Nat}

omit [LawfulClosable κ] in
theorem Calm.reachable (h : Calm config target now s) :
    Relation.ReflTransGen Step (System.start κ config target now) s := by
  induction h with
  | start => exact .refl
  | told h hstep => exact h.tail hstep
  | step _ hstep _ ih => exact ih.tail hstep

omit [LawfulClosable κ] in
/-- In a new pool nobody has looked yet. -/
theorem inVain_start {found : Task → Bool}
    (hfound : found (.acquire (.startEager now)) = false) (Q : Pool κ → Prop) :
    InVain found Q (start κ config target now) := by
  refine .inr fun k hk hkfound ↦ ?_
  rw [start] at hk
  dsimp only at hk
  split at hk
  · rw [List.mem_singleton.mp hk, hfound] at hkfound
    exact nomatch hkfound
  · exact nomatch hk

theorem inVain_lease_of_reachable (h : Relation.ReflTransGen Step (start κ config target now) s) :
    InVain Task.foundNoLease Saturated s := by
  induction h with
  | refl => exact inVain_start rfl Saturated
  | tail h hstep ih =>
    refine hstep.inVain (attentive_of_reachable h) ih ?_ (·.foundNoLease)
    intro p hopen hnone _ hsaturated
    exact hnone.saturated hopen hsaturated

theorem Calm.inVain_permit (h : Calm config target now s) :
    InVain Task.foundNoPermit (fun p ↦ p.permits = 0) s := by
  induction h with
  | start => exact inVain_start rfl _
  | told h hstep htold =>
    refine .inr fun k hk _ hseen ↦ ?_
    have hle := hstep.seen_le (attentive_of_reachable h) hk hseen
    exact absurd htold (Nat.not_lt_of_le hle)
  | step h hstep hlate ih =>
    refine hstep.inVain (attentive_of_reachable h.reachable) ih ?_ (·.foundNoPermit)
    intro p _ _ hpermits hzero
    have hle := hpermits.resolve_right hlate
    exact Nat.le_zero.mp (hzero ▸ hle)

/-- **Who waits and is not told could not be served**, once nobody has a notification left to give:
there is no open connection in the pool that could be shared, and there is no free permit either,
unless one was returned late and nothing was told since. Only acquisitions that end without a
connection return permits late. -/
theorem woken_in_time (h : Relation.ReflTransGen Step (start κ config target now) s) {a : Acquire}
    (ha : .acquire a ∈ s.tasks) {deadline : Nat}
    (hstage : a.stage = .waiting s.pool.changes deadline) (hquiet : ¬ s.Owing) :
    s.pool.Saturated ∧ (Calm config target now s → s.pool.permits = 0) ∧
    ∀ s', s.ReturnsLate s' → ∃ b, .acquire b ∈ s.tasks ∧ b.stage.failing = true := by
  have hseen : (Task.acquire a).seen? = some s.pool.changes := by
    rw [Task.seen?, hstage]
    rfl
  refine ⟨?_, fun hcalm ↦ ?_, ?_⟩
  · have hfound : (Task.acquire a).foundNoLease = true := by
      rw [Task.foundNoLease, hstage]
      rfl
    exact (inVain_lease_of_reachable h).resolve_left hquiet _ ha hfound hseen
  · have hfound : (Task.acquire a).foundNoPermit = true := by
      rw [Task.foundNoPermit, hstage]
      rfl
    exact hcalm.inVain_permit.resolve_left hquiet _ ha hfound hseen
  · rintro s' ⟨i, k, k', hi, hrest, hsilent, -⟩
    have hk : k ∈ s.tasks := List.mem_of_getElem? hi
    rcases (attentive_of_reachable h).prompt k hk with hprompt | hfailing
    · obtain ⟨x, hx, hnotifies⟩ := hprompt .returnPermit k'.rest (hrest ▸ List.suffix_rfl) rfl
      exact nomatch (hsilent x hx).symm.trans hnotifies
    · cases k with
      | acquire b => exact ⟨b, hk, hfailing⟩
      | _ => exact nomatch hfailing

/-- The only connection of a pool is lent as often as it may be, and a second caller waits. -/
theorem woken_in_time_lent :
    ∃ s a, Relation.ReflTransGen Step
        (start Connection { PoolConfig.standard with maxSize := 1, maxLeases := 1 } "target" 0) s ∧
      .acquire a ∈ s.tasks ∧ a.stage = .waiting 2 3000 ∧ s.pool.changes = 2 ∧ ¬ s.Owing ∧
      s.pool.slots = [0] ∧ s.pool.Saturated ∧ s.pool.permits = 0 := by
  let c : Connection := .start ⟨"connection", "target", .client, 1⟩ .standard .standard
    (.ofConfig .standard 1 .standard)
  have h₁ := Relation.ReflTransGen.single (Step.acquire .standard 0
    (start Connection { PoolConfig.standard with maxSize := 1, maxLeases := 1 } "target" 0))
  have h₂ := h₁.trans (reachable_run 0 0 6 rfl)
  have h₃ := h₂.tail (.move 0 rfl (.acquire (.connected rfl c _)))
  have h₄ := h₃.trans (reachable_run 0 0 4 rfl)
  -- The creation ends, and tells; the second caller comes after that.
  have h₅ := Calm.told h₄ (.act 0 0 rfl rfl) (Nat.lt_succ_self 1)
  have h₆ := h₅.step (.acquire .standard 0 _) fun h ↦ Nat.zero_ne_one h.permits
  have h₇ := h₆.step (.act 1 0 rfl rfl) fun h ↦ Nat.zero_ne_one h.permits
  have h₈ := h₇.step (.act 1 0 rfl rfl) fun h ↦ Nat.zero_ne_one h.permits
  have h₉ := h₈.step (.act 1 0 rfl rfl) fun h ↦ Nat.zero_ne_one h.permits
  have h₁₀ := h₉.step (.act 1 0 rfl rfl) fun h ↦ Nat.zero_ne_one h.permits
  have h₁₁ := h₁₀.step (.act 1 0 rfl rfl) fun h ↦ Nat.zero_ne_one h.permits
  have h₁₂ := h₁₁.step (.act 1 0 rfl rfl) fun h ↦ Nat.zero_ne_one h.permits
  have hsecond {p : Pool Connection} {k : Task} (a : Acquire) :
      .acquire a ∈ (⟨p, [k, .acquire a]⟩ : System Connection).tasks :=
    List.mem_cons_of_mem _ List.mem_cons_self
  refine ⟨_, _, h₁₂.reachable, hsecond _, rfl, rfl, ?quiet, rfl,
    (woken_in_time h₁₂.reachable (hsecond _) rfl ?quiet).1,
    (woken_in_time h₁₂.reachable (hsecond _) rfl ?quiet).2.1 h₁₂⟩
  refine not_owing (fun k hk ↦ ?_) fun m hm ↦ ?_
  · rcases List.mem_cons.mp hk with rfl | hk
    · rfl
    · rw [List.mem_singleton.mp hk]
      rfl
  · rw [List.mem_singleton.mp hm]
    rfl

/-- **A wake-up is lost.** A creation fails while a second caller waits, and tells of its end. The
caller looks again, finds no permit, and goes to sleep; then the permit is returned. Nobody has a
notification left to give, and the caller sleeps beside a free permit. -/
theorem asleep_beside_permit :
    ¬ ∀ (s : System Connection) (a : Acquire) (deadline : Nat),
      Relation.ReflTransGen Step
        (start Connection { PoolConfig.standard with maxSize := 1, maxCreateRetries := 0 }
          "target" 0) s →
      .acquire a ∈ s.tasks → a.stage = .waiting s.pool.changes deadline → ¬ s.Owing →
      s.pool.permits = 0 ∧ s.pool.Saturated := by
  intro hall
  have h₁ := Relation.ReflTransGen.single (Step.acquire .standard 0 (start Connection
    { PoolConfig.standard with maxSize := 1, maxCreateRetries := 0 } "target" 0))
  have h₂ := h₁.trans (reachable_run 0 0 6 rfl)
  have h₃ := h₂.tail (.acquire .standard 0 _)
  have h₄ := h₃.trans (reachable_run 1 0 6 rfl)
  -- The creation fails and tells, and the second caller looks again before the permit is free.
  have h₅ := h₄.tail (.move 0 rfl (.acquire (.refused rfl 0 .poolClosed _)))
  have h₆ := h₅.tail (.act 0 0 rfl rfl)
  have h₇ := h₆.trans (reachable_run 1 0 7 rfl)
  have h₈ := h₇.tail (.act 0 0 rfl rfl)
  have hzero := (hall _ _ 3000 h₈ (List.mem_cons_of_mem _ List.mem_cons_self) rfl ?_).1
  · exact Nat.one_ne_zero hzero
  · refine not_owing (fun k hk ↦ ?_) fun m hm ↦ nomatch hm
    rcases List.mem_cons.mp hk with rfl | hk
    · rfl
    · rw [List.mem_singleton.mp hk]
      rfl

end Runs

end System

end Pool

end RpcTransport
