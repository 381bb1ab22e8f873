import Mathlib.Algebra.BigOperators.Group.List.Basic
import Mathlib.Algebra.GroupWithZero.Nat
import Mathlib.Logic.Relation
import RpcTransport.Proofs.Dispatcher.Jobs

/-!
# Every response is used up once

Responses are submitted from any number of threads, callers go away or use up what they were handed,
and the workers go on, in any order; at the end the dispatcher is dropped, when no thread is in the
midst of a submission. The invariant accounts for completions, for bodies and for the counters: what
the threads, the workers and the callers have is at each moment what was submitted, each of it once
(`Conserved`).

A response that is submitted gets the next ticket, and its body is counted from its arrival on.
-/

namespace RpcTransport

namespace Dispatcher

/-! ## The system -/

structure System where
  state : State
  tasks : List Task
  /-- What was submitted. The ticket of a job is its place here. -/
  submits : List DecodeJob

namespace System

def start (registry : Registry) (processors : Nat) (config : DispatchConfig) (arena : Arena) :
    System :=
  ⟨⟨ofConfig registry processors config, arena, [], [], [], [], [], false, 0⟩, [], []⟩

/-- A response has arrived, and a thread is to submit it. -/
def submit (s : System) (kind : CompletionKind) (f : Frame) : System :=
  let job : DecodeJob := ⟨⟨kind, s.submits.length⟩, f⟩
  let arena := if f.body.tracked then s.state.arena.adoptOne else s.state.arena
  ⟨{ s.state with arena := arena }, s.tasks ++ [.submit job], s.submits ++ [job]⟩

/-- A thread or a worker goes on. -/
inductive Advances : System → System → Prop where
  | move (before : List Task) {k k' : Task} (after : List Task) {s s' : State}
      (submits : List DecodeJob) (h : Moves k s k' s') :
      Advances ⟨s, before ++ k :: after, submits⟩ ⟨s', before ++ k' :: after, submits⟩
  | work {s s' : State} (tasks : List Task) (submits : List DecodeJob) (h : Works s s') :
      Advances ⟨s, tasks, submits⟩ ⟨s', tasks, submits⟩

inductive Step : System → System → Prop where
  | submit (kind : CompletionKind) (f : Frame) (s : System) (h : s.state.dropped = false) :
      Step s (s.submit kind f)
  /-- A caller does not wait any more. -/
  | leave (ticket : Nat) (s : System) :
      Step s { s with state := { s.state with gone := ticket :: s.state.gone } }
  /-- A caller decodes or drops its raw response. -/
  | useUp (before : List (Nat × RawResponse)) (x : Nat × RawResponse)
      (after : List (Nat × RawResponse)) (s : System) (h : s.state.held = before ++ x :: after) :
      Step s { s with state := { s.state with held := before ++ after }.release (heldParcel x) }
  /-- Whoever drops the dispatcher is the last to have it. -/
  | drop (s : System) (h : ∀ k ∈ s.tasks, k = .ended) :
      Step s { s with state := { s.state with dropped := true } }
  | advance {s s' : System} (h : Advances s s') : Step s s'

/-- The bodies that are in use. -/
def parcels (s : System) : List Parcel := s.tasks.flatMap Task.parcels ++ s.state.parcels

/-- What callers were told, and what threads and workers will tell them. -/
def outcomes (registry : Registry) (s : System) : List Delivery :=
  s.tasks.flatMap (Task.outcomes registry) ++ s.state.outcomes

/-- The submissions that are yet to be counted. -/
def uncounted (s : System) : Nat := (s.tasks.map Task.uncounted).sum

/-- More than the steps that are left. -/
def cost (s : System) : Nat := s.state.cost + (s.tasks.map Task.cost).sum

/-- The dispatcher was dropped, and nobody has anything left to do. -/
structure Ended (s : System) : Prop where
  dropped_eq : s.state.dropped = true
  tasks_ended : ∀ k ∈ s.tasks, k = .ended
  drained : s.state.Drained

end System

/-! ## Accounts -/

/-- How many bodies are counted in the arena. -/
def tracked (ps : List Parcel) : Nat := ps.countP fun p ↦ p.2.tracked

theorem tracked_of_perm {ps qs : List Parcel} (h : ps.Perm qs) : tracked ps = tracked qs :=
  h.countP_eq _

theorem tracked_append (ps qs : List Parcel) : tracked (ps ++ qs) = tracked ps + tracked qs :=
  List.countP_append

theorem tracked_singleton (p : Parcel) : tracked [p] = if p.2.tracked then 1 else 0 :=
  List.countP_singleton

/-- The arena at the beginning, when some bodies have arrived, some of them have been released and
the others are in use. -/
def account (base : Arena) (all inUse released : List Parcel) : Arena :=
  ⟨base.live + tracked inUse, base.adopted + tracked all, base.released + tracked released⟩

/-- Each body that has arrived is in use or was released, and so the arena says. -/
structure Accounts (base : Arena) (all inUse : List Parcel) (s : State) : Prop where
  parcels_perm : (inUse ++ s.released).Perm all
  arena_eq : s.arena = account base all inUse s.released

theorem Accounts.passes {base : Arena} {all inUse inUse' : List Parcel} {s s' : State}
    (h : Accounts base all inUse s) (hpasses : Passes s s' inUse inUse') :
    Accounts base all inUse' s' := by
  cases hpasses with
  | on harena hreleased hperm =>
    refine ⟨?_, ?_⟩
    · rw [hreleased]
      exact (hperm.append_right _).trans h.parcels_perm
    · rw [harena, h.arena_eq, hreleased, account, account, tracked_of_perm hperm]
  | off p harena hreleased hperm =>
    have hinUse : tracked inUse = tracked inUse' + tracked [p] :=
      (tracked_of_perm (hperm.symm.trans (List.perm_append_singleton _ _).symm)).trans
        (tracked_append inUse' [p])
    refine ⟨?_, ?_⟩
    · rw [hreleased, ← List.append_assoc]
      exact (List.perm_append_singleton p _).trans ((hperm.append_right _).trans h.parcels_perm)
    · rw [harena, h.arena_eq, hreleased, account, account, hinUse, tracked_append,
        tracked_singleton, Arena.release]
      split
      · rfl
      · rfl

/-! ## The invariant -/

/-- Whether a response is to be decoded by the dispatcher. -/
def isDecoded (job : DecodeJob) : Bool := job.completion.kind ≠ .raw

structure Conserved (registry : Registry) (processors : Nat) (config : DispatchConfig)
    (base : Arena) (s : System) : Prop where
  setting_eq : s.state.dispatcher.setting = (ofConfig registry processors config).setting
  sound : Sound s.state
  outcomes_perm : (s.outcomes registry).Perm (s.submits.map (answer registry))
  accounts : Accounts base (s.submits.map parcel) s.parcels s.state
  counted_eq : s.state.counted + s.uncounted = s.submits.countP isDecoded
  tickets_eq : s.submits.map (·.completion.ticket) = List.range s.submits.length
  tasks_ended : s.state.dropped = true → ∀ k ∈ s.tasks, k = .ended

section

open Dispatcher.System

variable {registry : Registry} {processors : Nat} {config : DispatchConfig} {base : Arena}
  {s s' : System}

theorem conserved_start (registry : Registry) (processors : Nat) (config : DispatchConfig)
    (base : Arena) :
    Conserved registry processors config base (.start registry processors config base) where
  setting_eq := rfl
  sound := ⟨Nat.zero_le _, fun h ↦ absurd rfl h, Nat.zero_le _, nofun, nofun⟩
  outcomes_perm := .refl _
  accounts := ⟨.refl _, rfl⟩
  counted_eq := rfl
  tickets_eq := rfl
  tasks_ended := nofun

theorem Conserved.registry_eq (hs : Conserved registry processors config base s) :
    s.state.dispatcher.registry = registry := congrArg (·.1) hs.setting_eq

theorem Conserved.workers_eq (hs : Conserved registry processors config base s) :
    s.state.dispatcher.workers = if config.offload then config.workers.getD processors else 0 :=
  congrArg (·.2.1) hs.setting_eq

theorem Conserved.capacity_eq (hs : Conserved registry processors config base s) :
    s.state.dispatcher.capacity = max config.queueCapacity 1 := congrArg (·.2.2) hs.setting_eq

/-- A frame that arrives with a body that is counted is one more. -/
theorem Accounts.arrive {all inUse : List Parcel} {s : State} (h : Accounts base all inUse s)
    (p : Parcel) :
    Accounts base (all ++ [p]) (p :: inUse)
      { s with arena := if p.2.tracked then s.arena.adoptOne else s.arena } := by
  refine ⟨(h.parcels_perm.cons p).trans (List.perm_append_singleton _ _).symm, ?_⟩
  have hinUse : tracked (p :: inUse) = tracked inUse + tracked [p] :=
    (tracked_of_perm (List.perm_append_singleton _ _).symm).trans (tracked_append inUse [p])
  rw [h.arena_eq, account, account, hinUse, tracked_append, tracked_singleton]
  split
  · rfl
  · rfl

theorem Conserved.submit (hs : Conserved registry processors config base s)
    (h : s.state.dropped = false) (kind : CompletionKind) (f : Frame) :
    Conserved registry processors config base (s.submit kind f) := by
  let job : DecodeJob := ⟨⟨kind, s.submits.length⟩, f⟩
  refine ⟨hs.setting_eq, ?_, ?_, ?_, ?_, ?_, fun hdropped ↦ nomatch h.symm.trans hdropped⟩
  · exact ⟨hs.sound.queue_le, hs.sound.workers_pos, hs.sound.busy_le, hs.sound.exited_pos,
      hs.sound.mem_told⟩
  · change ((s.tasks ++ [Task.submit job]).flatMap (Task.outcomes registry) ++
      s.state.outcomes).Perm ((s.submits ++ [job]).map (answer registry))
    rw [List.flatMap_append, List.map_append]
    exact (perm_cons_of_append_singleton _ _ _).trans
      ((hs.outcomes_perm.cons _).trans (List.perm_append_singleton _ _).symm)
  · have hperm : (s.submit kind f).parcels.Perm (parcel job :: s.parcels) := by
      change ((s.tasks ++ [Task.submit job]).flatMap Task.parcels ++ s.state.parcels).Perm _
      rw [List.flatMap_append]
      exact perm_cons_of_append_singleton _ _ _
    change Accounts base ((s.submits ++ [job]).map parcel) _ _
    rw [List.map_append]
    exact (hs.accounts.arrive (parcel job)).passes (.on rfl rfl hperm)
  · have hcounted := hs.counted_eq
    have huncounted : (Task.submit job).uncounted = if isDecoded job then 1 else 0 := by
      rw [Task.uncounted, isDecoded]
      by_cases hraw : job.completion.kind = .raw
      · simp [hraw]
      · simp [hraw]
    change s.state.counted + ((s.tasks ++ [Task.submit job]).map Task.uncounted).sum =
      (s.submits ++ [job]).countP isDecoded
    rw [List.map_append, List.sum_append, List.countP_append, ← hcounted, List.countP_singleton,
      ← huncounted]
    exact (Nat.add_assoc _ _ _).symm
  · change (s.submits ++ [job]).map (·.completion.ticket) = List.range (s.submits ++ [job]).length
    rw [List.map_append, List.length_append, hs.tickets_eq]
    exact List.range_succ.symm

/-! ## One step -/

theorem perm_gather {α : Type} (before x after y : List α) :
    (before ++ (x ++ after) ++ y).Perm (before ++ after ++ (x ++ y)) := by
  rw [List.append_assoc, List.append_assoc, List.append_assoc]
  exact (List.perm_append_comm_assoc _ _ _).append_left before

theorem Passes.add {s s' : State} {inUse inUse' all all' : List Parcel} (rest : List Parcel)
    (h : Passes s s' inUse inUse') (hall : all.Perm (rest ++ inUse))
    (hall' : all'.Perm (rest ++ inUse')) : Passes s s' all all' := by
  cases h with
  | on harena hreleased hperm =>
    exact .on harena hreleased (hall'.trans ((hperm.append_left rest).trans hall.symm))
  | off p harena hreleased hperm =>
    refine .off p harena hreleased ((hall'.cons p).trans ?_)
    exact List.perm_middle.symm.trans ((hperm.append_left rest).trans hall.symm)

theorem Conserved.advance (hs : Conserved registry processors config base s) (h : Advances s s') :
    Conserved registry processors config base s' := by
  have hregistry := hs.registry_eq
  have houtcomes := hs.outcomes_perm
  have hcounted := hs.counted_eq
  rw [System.outcomes] at houtcomes
  rw [uncounted] at hcounted
  cases h with
  | @move before k k' after t t' submits h =>
    -- A thread that still moves is in the midst of a submission.
    have hdropped : t.dropped = false := by
      refine Bool.eq_false_iff.mpr fun hdropped ↦ ?_
      have hk := hs.tasks_ended hdropped k (List.mem_append_right _ List.mem_cons_self)
      subst hk
      cases h
    refine ⟨h.setting_eq.trans hs.setting_eq, h.sound hs.sound hdropped, ?_, ?_, ?_,
      hs.tickets_eq, fun hdropped' ↦ ?_⟩
    · have hmove := h.outcomes
      rw [hregistry] at hmove
      rw [List.flatMap_append, List.flatMap_cons] at houtcomes
      rw [System.outcomes, List.flatMap_append, List.flatMap_cons]
      exact (perm_gather _ _ _ _).trans ((hmove.append_left _).trans
        ((perm_gather _ _ _ _).symm.trans houtcomes))
    · refine hs.accounts.passes (h.passes.add
        (before.flatMap Task.parcels ++ after.flatMap Task.parcels) ?_ ?_)
      · rw [parcels, List.flatMap_append, List.flatMap_cons]
        exact perm_gather _ _ _ _
      · rw [parcels, List.flatMap_append, List.flatMap_cons]
        exact perm_gather _ _ _ _
    · have hmove := h.counted
      rw [List.map_append, List.map_cons, List.sum_append, List.sum_cons] at hcounted
      rw [uncounted, List.map_append, List.map_cons, List.sum_append, List.sum_cons, ← hcounted]
      simp only
      omega
    · exact absurd (h.dropped_eq.symm.trans hdropped') (Bool.eq_false_iff.mp hdropped)
  | work tasks submits h =>
    refine ⟨h.setting_eq.trans hs.setting_eq, h.sound hs.sound, ?_, ?_, ?_, hs.tickets_eq,
      fun hdropped ↦ hs.tasks_ended (h.dropped_eq ▸ hdropped)⟩
    · exact (h.outcomes.append_left _).trans houtcomes
    · exact hs.accounts.passes (h.passes.add _ (.refl _) (.refl _))
    · exact (congrArg (· + _) h.counted).trans hcounted

theorem System.Step.conserved (h : Step s s') (hs : Conserved registry processors config base s) :
    Conserved registry processors config base s' := by
  cases h with
  | submit kind f _ h => exact hs.submit h kind f
  | leave ticket =>
    exact ⟨hs.setting_eq, ⟨hs.sound.queue_le, hs.sound.workers_pos, hs.sound.busy_le,
      hs.sound.exited_pos, hs.sound.mem_told⟩, hs.outcomes_perm,
      hs.accounts.passes (.on rfl rfl (.refl _)), hs.counted_eq, hs.tickets_eq, hs.tasks_ended⟩
  | useUp before x after _ h =>
    refine ⟨hs.setting_eq, ⟨hs.sound.queue_le, hs.sound.workers_pos, hs.sound.busy_le,
      hs.sound.exited_pos, fun y hy ↦ hs.sound.mem_told y ?_⟩, hs.outcomes_perm,
      hs.accounts.passes (.off (heldParcel x) rfl rfl ?_), hs.counted_eq, hs.tickets_eq,
      hs.tasks_ended⟩
    · rw [h]
      exact List.perm_middle.symm.subset (List.mem_cons_of_mem x hy)
    · have hheld : (heldParcel x :: (before ++ after).map heldParcel).Perm
          (s.state.held.map heldParcel) := by
        rw [h]
        exact List.perm_middle.symm.map heldParcel
      have hmiddle := List.perm_middle.symm.trans (hheld.append_left
        (s.tasks.flatMap Task.parcels ++
          (s.state.dispatcher.queue ++ s.state.dispatcher.running).map parcel))
      rw [List.append_assoc, List.append_assoc] at hmiddle
      exact hmiddle
  | drop _ h =>
    exact ⟨hs.setting_eq, ⟨hs.sound.queue_le, hs.sound.workers_pos, hs.sound.busy_le,
      fun hpos ↦ ⟨rfl, (hs.sound.exited_pos hpos).2⟩, hs.sound.mem_told⟩, hs.outcomes_perm,
      hs.accounts.passes (.on rfl rfl (.refl _)), hs.counted_eq, hs.tickets_eq, fun _ ↦ h⟩
  | advance h => exact hs.advance h

theorem conserved_of_reachable
    (h : Relation.ReflTransGen Step (start registry processors config base) s) :
    Conserved registry processors config base s := by
  induction h with
  | refl => exact conserved_start registry processors config base
  | tail _ hstep ih => exact hstep.conserved ih

/-! ## What follows at each moment -/

theorem Conserved.getElem?_ticket (hs : Conserved registry processors config base s)
    {job : DecodeJob} (h : job ∈ s.submits) :
    s.submits[job.completion.ticket]? = some job := by
  obtain ⟨i, hi⟩ := List.mem_iff_getElem?.mp h
  have hticket := congrArg (fun l ↦ l[i]?) hs.tickets_eq
  simp only [List.getElem?_map, hi, Option.map_some,
    List.getElem?_range (List.getElem?_eq_some_iff.mp hi).1] at hticket
  rwa [Option.some.inj hticket]

theorem Conserved.nodup_told (hs : Conserved registry processors config base s) :
    (s.state.told.map Delivery.ticket).Nodup := by
  have htickets : ((s.outcomes registry).map Delivery.ticket).Perm
      (List.range s.submits.length) := by
    rw [← hs.tickets_eq]
    refine (hs.outcomes_perm.map Delivery.ticket).trans (.of_eq ?_)
    rw [List.map_map]
    rfl
  refine (htickets.nodup_iff.mpr List.nodup_range).sublist (List.Sublist.map _ ?_)
  exact ((List.sublist_append_left _ _).trans (List.sublist_append_left _ _)).trans
    (List.sublist_append_right _ _)

theorem Conserved.answer_of_told (hs : Conserved registry processors config base s)
    {d : Delivery} (h : d ∈ s.state.told) :
    ∃ job, s.submits[d.ticket]? = some job ∧ d = answer registry job := by
  have houtcome : d ∈ s.outcomes registry :=
    List.mem_append_right _ (List.mem_append_left _ (List.mem_append_left _ h))
  obtain ⟨job, hjob, rfl⟩ := List.mem_map.mp (hs.outcomes_perm.mem_iff.mp houtcome)
  exact ⟨job, hs.getElem?_ticket hjob, rfl⟩

/-- **The queue takes a job unless there are no workers or it is full.** -/
theorem Conserved.accepts_iff (hs : Conserved registry processors config base s)
    (h : s.state.dropped = false) :
    s.state.Accepts ↔ ¬ (config.offload = false ∨ config.workers.getD processors = 0 ∨
      s.state.dispatcher.queue.length = max config.queueCapacity 1) := by
  have hexited := hs.sound.exited_eq_zero h
  have hle := hs.sound.queue_le
  rw [hs.capacity_eq] at hle
  rw [State.Accepts, hexited, hs.workers_eq, hs.capacity_eq]
  cases config.offload with
  | false => simp
  | true =>
    simp only [if_true, Bool.true_eq_false, false_or]
    omega

theorem Conserved.dropped_eq_false (hs : Conserved registry processors config base s)
    {job : DecodeJob} (h : Task.submit job ∈ s.tasks) : s.state.dropped = false :=
  Bool.eq_false_iff.mpr fun hdropped ↦ nomatch hs.tasks_ended hdropped _ h

/-- Threads go on until their submissions have ended. -/
theorem System.tasks_ended_or_advances (s : System) :
    (∀ k ∈ s.tasks, k = .ended) ∨ ∃ s', Advances s s' := by
  refine or_iff_not_imp_left.mpr fun hmoving ↦ ?_
  obtain ⟨state, tasks, submits⟩ := s
  push Not at hmoving
  obtain ⟨k, hk, hne⟩ := hmoving
  obtain ⟨before, after, rfl⟩ := List.append_of_mem hk
  obtain ⟨k', state', hmove⟩ := (k.ended_or_moves state).resolve_left hne
  exact ⟨_, .move before after submits hmove⟩

/-- **After the drop threads and workers go on until nothing is left to do.** -/
theorem Conserved.ended_or_advances (hs : Conserved registry processors config base s)
    (h : s.state.dropped = true) : s.Ended ∨ ∃ s', Advances s s' := by
  rcases hs.sound.drained_or_works h with hdrained | ⟨t, hworks⟩
  · exact .inl ⟨h, hs.tasks_ended h, hdrained⟩
  · exact .inr ⟨_, .work s.tasks s.submits hworks⟩

theorem System.Advances.cost_lt (h : Advances s s') : s'.cost < s.cost := by
  cases h with
  | @move before k k' after t t' submits h =>
    have hmove := h.cost_lt
    simp only [System.cost, List.map_append, List.map_cons, List.sum_append, List.sum_cons]
    omega
  | work tasks submits h => exact Nat.add_lt_add_right h.cost_lt _

/-! ## The end -/

namespace System.Ended

theorem outcomes_eq (h : s.Ended) (registry : Registry) : s.outcomes registry = s.state.told := by
  have htasks : s.tasks.flatMap (Task.outcomes registry) = [] :=
    List.flatMap_eq_nil_iff.mpr fun k hk ↦ by
      rw [h.tasks_ended k hk]
      rfl
  rw [System.outcomes, htasks, State.outcomes, h.drained.telling_eq, Dispatcher.outcomes,
    h.drained.queue_eq, h.drained.running_eq]
  simp

theorem parcels_eq (h : s.Ended) : s.parcels = s.state.held.map heldParcel := by
  have htasks : s.tasks.flatMap Task.parcels = [] :=
    List.flatMap_eq_nil_iff.mpr fun k hk ↦ by
      rw [h.tasks_ended k hk]
      rfl
  rw [parcels, htasks, State.parcels, h.drained.queue_eq, h.drained.running_eq]
  rfl

theorem uncounted_eq (h : s.Ended) : s.uncounted = 0 := by
  refine List.sum_eq_zero fun n hn ↦ ?_
  obtain ⟨k, hk, rfl⟩ := List.mem_map.mp hn
  rw [h.tasks_ended k hk]
  rfl

end System.Ended

/-- **Whatever threads, workers and callers do, every response is used up once.** A caller is told
at most once, and then what its own response means, or the response as it is if it wanted it raw.
Each body that arrived is in use or was released, and this once, and the arena counts both. A job is
decoded where it arrived if there are no workers or the queue is full, and goes to the workers
otherwise; either is counted. Submissions come to an end, so that the dispatcher can be dropped, and
then so does every run of threads and workers: everybody was told, and only the bodies of the raw
responses that callers still have are in use. -/
theorem conservation
    (h : Relation.ReflTransGen Step (start registry processors config base) s) :
    s.submits.map (·.completion.ticket) = List.range s.submits.length ∧
    ((s.state.told.map Delivery.ticket).Nodup ∧
      ∀ d ∈ s.state.told, ∃ job, s.submits[d.ticket]? = some job ∧ d = answer registry job) ∧
    ((s.parcels ++ s.state.released).Perm (s.submits.map parcel) ∧
      s.state.arena = account base (s.submits.map parcel) s.parcels s.state.released ∧
      ∀ x ∈ s.state.held, (⟨x.1, .raw x.2⟩ : Delivery) ∈ s.state.told) ∧
    (s.state.dispatcher.offloaded + s.state.dispatcher.inlined + s.uncounted =
        s.submits.countP isDecoded ∧
      s.state.dispatcher.queue.length ≤ max config.queueCapacity 1 ∧
      ∀ job k t, .submit job ∈ s.tasks → job.completion.kind ≠ .raw →
        Moves (.submit job) s.state k t →
        (k = .refused job ∧ t = s.state ∨
          k = .count ∧ t.dispatcher.queue = s.state.dispatcher.queue ++ [job]) ∧
        (k = .refused job ↔ config.offload = false ∨ config.workers.getD processors = 0 ∨
          s.state.dispatcher.queue.length = max config.queueCapacity 1)) ∧
    (s.Ended →
      s.state.told.Perm (s.submits.map (answer registry)) ∧
      s.parcels = s.state.held.map heldParcel ∧
      s.state.dispatcher.offloaded + s.state.dispatcher.inlined = s.submits.countP isDecoded) ∧
    ((∀ k ∈ s.tasks, k = .ended) ∨ ∃ s', Advances s s') ∧
    (s.state.dropped = true → s.Ended ∨ ∃ s', Advances s s') ∧
    ∀ s', Advances s s' → s'.cost < s.cost := by
  have hs := conserved_of_reachable h
  refine ⟨hs.tickets_eq, ⟨hs.nodup_told, fun _ hd ↦ hs.answer_of_told hd⟩,
    ⟨hs.accounts.parcels_perm, hs.accounts.arena_eq, hs.sound.mem_told⟩,
    ⟨hs.counted_eq, ?_, ?_⟩, ?_, s.tasks_ended_or_advances, hs.ended_or_advances,
    fun _ ↦ Advances.cost_lt⟩
  · exact Nat.le_trans hs.sound.queue_le (Nat.le_of_eq hs.capacity_eq)
  · intro job k t hjob hraw hmove
    have haccepts := hs.accepts_iff (hs.dropped_eq_false hjob)
    cases hmove with
    | handOver _ _ h | handBack _ _ h => exact absurd h hraw
    | offer _ _ _ h =>
      refine ⟨.inr ⟨rfl, rfl⟩, ?_⟩
      exact iff_of_false nofun (haccepts.mp h)
    | refuse _ _ _ h =>
      refine ⟨.inl ⟨rfl, rfl⟩, ?_⟩
      exact iff_of_true rfl (not_not.mp fun hno ↦ h (haccepts.mpr hno))
  · intro hended
    have houtcomes := hs.outcomes_perm
    have hcounted := hs.counted_eq
    rw [hended.outcomes_eq] at houtcomes
    rw [hended.uncounted_eq] at hcounted
    exact ⟨houtcomes, hended.parcels_eq, hcounted⟩

/-- A queue with one place is full when the second response comes, which is decoded where it
arrived; the third is handed over, and the first is decoded after the drop. -/
theorem conservation_full_queue :
    ∃ s, Relation.ReflTransGen Step (start .standard 4 ⟨true, some 1, 0⟩ .empty) s ∧ s.Ended ∧
      s.state.told.map Delivery.ticket = [1, 2, 0] ∧
      s.state.told.Perm (s.submits.map (answer .standard)) ∧
      s.parcels = [(2, ⟨[7], true⟩)] ∧ s.state.arena = ⟨1, 3, 2⟩ ∧
      s.state.dispatcher.offloaded = 1 ∧ s.state.dispatcher.inlined = 1 := by
  let frame : Frame := .response 1 6 (.unknown 9) ⟨[7], true⟩
  let job (kind : CompletionKind) (ticket : Nat) : DecodeJob := ⟨⟨kind, ticket⟩, frame⟩
  have h₀ : Relation.ReflTransGen Step (start .standard 4 ⟨true, some 1, 0⟩ .empty) _ :=
    .single (.submit .decoded frame _ rfl)
  have h₁ := h₀.tail (.advance (.move [] [] _ (.offer (job .decoded 0) _ nofun (by decide))))
  have h₂ := h₁.tail (.submit .listener frame _ rfl)
  have h₃ := h₂.tail (.advance (.move [.count] [] _
    (.refuse (job .listener 1) _ nofun (by decide))))
  have h₄ := h₃.tail (.advance (.move [] [_] _ (.count _)))
  have h₅ := h₄.tail (.advance (.move [.ended] [] _ (.countRefused _ _)))
  have h₆ := h₅.tail (.advance (.move [.ended] [] _ (.decode _ _)))
  have h₇ := h₆.tail (.advance (.move [.ended] [] _ (.tell _ _)))
  have h₈ := h₇.tail (.submit .raw frame _ rfl)
  have h₉ := h₈.tail (.advance (.move [.ended, .ended] [] _
    (.handOver (job .raw 2) _ rfl (by decide))))
  have h₁₀ := h₉.tail (.drop _ (by simp))
  have h₁₁ := h₁₀.tail (.advance (.work _ _ (.take _ rfl (by decide))))
  have h₁₂ := h₁₁.tail (.advance (.work _ _ (.decode _ (fun _ ↦ false) rfl)))
  have h₁₃ := h₁₂.tail (.advance (.work _ _ (.tell _ [] _ [] rfl)))
  have h₁₄ := h₁₃.tail (.advance (.work _ _ (.exit _ rfl rfl (by decide))))
  refine ⟨_, h₁₄, ?ended, rfl, ((conservation h₁₄).2.2.2.2.1 ?ended).1, rfl, rfl, rfl, rfl⟩
  refine ⟨rfl, fun k hk ↦ ?_, ⟨rfl, rfl, rfl, rfl⟩⟩
  change k ∈ List.replicate 3 Task.ended at hk
  exact List.eq_of_mem_replicate hk

end

end Dispatcher

end RpcTransport
