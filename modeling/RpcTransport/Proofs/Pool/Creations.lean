import Mathlib.Data.List.Nodup
import RpcTransport.Proofs.Pool.Closing
import RpcTransport.Proofs.Pool.Passages

/-!
# Creations and what they leave

Any number of acquisitions run together, and the factory answers as it likes. A creation asks it no
more often than it may, each time with a number that is new, and stops at the first connection. When
every attempt has failed, it fails with the number of attempts and the last error. If it fails, or
its caller gives up, then it leaves nothing behind.

## The chronicle

None of this can be read off a pool, which keeps only a counter. So a log is kept beside it
(`Chronicle`) that nobody reads: every move of an acquisition, with whose it was, with what passed
between it and the factory, and with the pool before and after. It takes nothing from what a pool
may do: every run has its chronicle (`Chronicle.exists_chronicle`).
-/

namespace RpcTransport

open Pool (Action)
open Relation (ReflTransGen)

/-! ## The count of creations -/

namespace Pool

variable {κ : Type} [Closable κ]

def Task.counted : Task → Nat
  | acquire a => a.stage.counted a.eager
  | chores rest => rest.count .leaveCreation
  | closing | draining => 0

section

variable {k k' : Task} {p p' : Pool κ}

theorem Moves.counted (h : Moves k p k' p') (hle : k.counted ≤ p.creating) :
    p'.creating + k.counted = p.creating + k'.counted := by
  cases h with
  | acquire h =>
    obtain ⟨x, hx⟩ := h.exists_trades
    obtain ⟨heager, hstage⟩ := hx.spec
    have hmove := hstage.counted hle
    rw [← heager] at hmove
    rw [Task.counted, Task.counted, ← heager]
    exact hmove
  | chore action rest => exact p.creating_perform hle
  | close | closeNone => rfl
  | drain =>
    have hnone : (drainedActions p.slots).count .leaveCreation = 0 := by
      rw [List.count_eq_zero]
      simp [drainedActions]
    exact congrArg (p.creating + ·) hnone.symm

theorem Moves.config_eq (h : Moves k p k' p') : p'.config = p.config ∧ p'.target = p.target := by
  cases h with
  | acquire h =>
    have hpasses := Acquire.passes_of_moves h
    generalize Acquire.stage _ = st at hpasses
    generalize Acquire.stage _ = st' at hpasses
    cases hpasses with
    | act action =>
      cases action with
      | _ => exact ⟨rfl, rfl⟩
    | _ => exact ⟨rfl, rfl⟩
  | chore action =>
    cases action with
    | _ => exact ⟨rfl, rfl⟩
  | close | closeNone | drain => exact ⟨rfl, rfl⟩

end

namespace System

variable {s s' : System κ}

def Counted (s : System κ) : Prop := s.pool.creating = (s.tasks.map Task.counted).sum

omit [Closable κ] in
theorem Counted.le {i : Nat} {k : Task} (hs : s.Counted) (hi : s.tasks[i]? = some k) :
    k.counted ≤ s.pool.creating := by
  have hset := sum_map_set Task.counted hi .closing
  have hnone : Task.closing.counted = 0 := rfl
  rw [Counted] at hs
  omega

omit [Closable κ] in
theorem Counted.append {p : Pool κ} {ks : List Task} (hs : Counted ⟨p, ks⟩) {k : Task}
    (hk : k.New) : Counted ⟨p, ks ++ [k]⟩ := by
  have hnone : k.counted = 0 := by
    cases hk with
    | acquire config options now =>
      rw [Task.counted]
      rcases Acquire.start_stage config options now with hstage | hstage
      · rw [hstage]
        rfl
      · rw [hstage]
        rfl
    | release | closeAll | wake => rfl
  rw [Counted, List.map_append, List.sum_append, List.map_singleton, List.sum_singleton, hnone]
  exact hs

theorem Step.counted (h : Step s s') (hs : s.Counted) : s'.Counted := by
  cases h with
  | acquire options now => exact hs.append (.acquire s.pool.config options now)
  | release m => exact hs.append (.release m)
  | closeAll => exact hs.append .closeAll
  | @wake m =>
    have hunwatched : Counted ⟨{ s.pool with watched := s.pool.watched.erase m }, s.tasks⟩ := hs
    exact hunwatched.append .wake
  | evolve => exact hs
  | @move i k k' p _ hi h =>
    have hmove := h.counted (hs.le hi)
    have hset := sum_map_set Task.counted hi k'
    rw [Counted] at hs ⊢
    dsimp only
    omega

theorem Step.config_eq (h : Step s s') :
    s'.pool.config = s.pool.config ∧ s'.pool.target = s.pool.target := by
  cases h with
  | move _ _ h => exact h.config_eq
  | acquire | release | closeAll | wake | evolve => exact ⟨rfl, rfl⟩

end System

/-! ## The chronicle of a pool -/

/-- A pool with its tasks, and every move of an acquisition so far, with whose it was. -/
structure Chronicle (κ : Type) extends System κ where
  log : List (Nat × Passage κ)

namespace Chronicle

def start (κ : Type) (config : PoolConfig) (target : String) (now : Nat) : Chronicle κ :=
  ⟨.start κ config target now, []⟩

inductive Step : Chronicle κ → Chronicle κ → Prop where
  | move (i : Nat) {a a' : Acquire} {p : Pool κ} {x : Option (Exchange κ)} {s : Chronicle κ}
      (hi : s.tasks[i]? = some (.acquire a)) (h : a.Trades s.pool x a' p) :
      Step s ⟨⟨p, s.tasks.set i (.acquire a')⟩, s.log ++ [(i, ⟨x, s.pool, p⟩)]⟩
  /-- Anything else: callers come, leases end, connections close, the pool is closed. -/
  | other {s : Chronicle κ} {v : System κ} (h : s.toSystem.Step v)
      (hidle : ∀ (i : Nat) (a : Acquire), s.tasks[i]? = some (.acquire a) →
        v.tasks[i]? = some (.acquire a)) : Step s ⟨v, s.log⟩

variable {s s' : Chronicle κ} {v : System κ}

theorem Step.system (h : Step s s') : s.toSystem.Step s'.toSystem := by
  cases h with
  | move i hi h => exact .move i hi (.acquire h.moves)
  | other h => exact h

/-- **Every step has its place in a chronicle.** -/
theorem exists_step (h : s.toSystem.Step v) : ∃ log, Step s ⟨v, log⟩ := by
  have hjoined {p : Pool κ} {k : Task} (hjoin : s.toSystem.Step ⟨p, s.tasks ++ [k]⟩) :
      ∃ log, Step s ⟨⟨p, s.tasks ++ [k]⟩, log⟩ := by
    refine ⟨s.log, .other hjoin fun i a hi ↦ ?_⟩
    rw [List.getElem?_append_left (List.getElem?_eq_some_iff.mp hi).1]
    exact hi
  cases h with
  | acquire options now => exact hjoined (.acquire options now _)
  | release m => exact hjoined (.release m _)
  | closeAll => exact hjoined (.closeAll _)
  | wake hm hclosed => exact hjoined (.wake hm hclosed)
  | evolve m f hf => exact ⟨s.log, .other (.evolve m f hf _) fun _ _ hi ↦ hi⟩
  | @move j k k' p _ hj hmoves =>
    -- the log takes the moves of acquisitions; nobody else's change one
    by_cases hk : ∃ a, k = .acquire a
    · obtain ⟨a, rfl⟩ := hk
      cases hmoves with
      | acquire h =>
        obtain ⟨x, hx⟩ := h.exists_trades
        exact ⟨_, .move j hj hx⟩
    · refine ⟨s.log, .other (.move j hj hmoves) fun i a hi ↦ ?_⟩
      have hne : j ≠ i := by
        rintro rfl
        exact hk ⟨a, Option.some.inj (hj.symm.trans hi)⟩
      exact (List.getElem?_set_ne hne).trans hi

/-- Every run of a pool has a chronicle. -/
theorem exists_chronicle {config : PoolConfig} {target : String} {now : Nat}
    (h : ReflTransGen System.Step (System.start κ config target now) v) :
    ∃ s, ReflTransGen Step (start κ config target now) s ∧ s.toSystem = v := by
  induction h with
  | refl => exact ⟨_, .refl, rfl⟩
  | tail _ hstep ih =>
    obtain ⟨s, hs, rfl⟩ := ih
    obtain ⟨log, hlog⟩ := exists_step hstep
    exact ⟨_, hs.tail hlog, rfl⟩

/-! ## What the chronicle shows -/

section

omit [Closable κ]

/-- The moves of one acquisition. -/
def passages (s : Chronicle κ) (i : Nat) : List (Passage κ) :=
  (s.log.filter (·.1 = i)).map Prod.snd

def exchanges (s : Chronicle κ) (i : Nat) : List (Exchange κ) := Passage.exchanges (s.passages i)

/-- The numbers that the factory was asked with, by whomever. -/
def numbers (s : Chronicle κ) : List Nat :=
  Exchange.numbers (Passage.exchanges (s.log.map Prod.snd))

theorem numbers_exchanges_sublist (s : Chronicle κ) (i : Nat) :
    (Exchange.numbers (s.exchanges i)).Sublist s.numbers :=
  ((List.filter_sublist.map _).filterMap _).filterMap _

theorem passages_concat_self (v : System κ) (log : List (Nat × Passage κ)) (i : Nat)
    (e : Passage κ) :
    passages ⟨v, log ++ [(i, e)]⟩ i = passages ⟨v, log⟩ i ++ [e] := by
  simp [passages]

theorem passages_concat_of_ne {i j : Nat} (h : j ≠ i) (v : System κ)
    (log : List (Nat × Passage κ)) (e : Passage κ) :
    passages ⟨v, log ++ [(j, e)]⟩ i = passages ⟨v, log⟩ i := by
  simp [passages, h]

end

structure Sound (config : PoolConfig) (target : String) (s : Chronicle κ) : Prop where
  config_eq : s.pool.config = config
  target_eq : s.pool.target = target
  counted : s.Counted
  numbers_eq : s.numbers = List.range' 1 s.pool.generation
  /-- Only acquisitions have moves in the log. -/
  listed : ∀ x ∈ s.log, ∃ a, s.tasks[x.1]? = some (.acquire a)
  booked : ∀ (i : Nat) (a : Acquire), s.tasks[i]? = some (.acquire a) →
    a.Booked config target (s.passages i)

variable {config : PoolConfig} {target : String} {now : Nat}

/-- Who is yet to come has made no move. -/
theorem Sound.passages_eq_nil (hs : s.Sound config target) {i : Nat}
    (hi : s.tasks[i]? = none) : s.passages i = [] := by
  rw [passages, List.map_eq_nil_iff, List.filter_eq_nil_iff]
  intro x hx hxi
  obtain ⟨a, ha⟩ := hs.listed x hx
  rw [of_decide_eq_true hxi, hi] at ha
  cases ha

/-- The factory is asked by acquisitions that go on. -/
theorem generation_of_idle (h : s.toSystem.Step v)
    (hidle : ∀ (i : Nat) (a : Acquire), s.tasks[i]? = some (.acquire a) →
      v.tasks[i]? = some (.acquire a)) : v.pool.generation = s.pool.generation := by
  cases h with
  | acquire | release | closeAll | wake | evolve => rfl
  | @move i k k' p _ hi hmoves =>
    cases hmoves with
    | @acquire a a' _ _ h =>
      -- an acquisition that asks goes on to another stage
      have hsame := hidle i a hi
      rw [List.getElem?_set_self (List.getElem?_eq_some_iff.mp hi).1] at hsame
      obtain rfl : a' = a := Task.acquire.inj (Option.some.inj hsame)
      obtain ⟨x, hx⟩ := h.exists_trades
      exact hx.spec.2.generation_eq_of_same
    | chore action =>
      cases action with
      | _ => rfl
    | close | closeNone | drain => rfl

/-- Where no acquisition moves, each is where it was, or has just come. -/
theorem Sound.booked_of_idle (hs : s.Sound config target) (h : s.toSystem.Step v)
    (hidle : ∀ (i : Nat) (a : Acquire), s.tasks[i]? = some (.acquire a) →
      v.tasks[i]? = some (.acquire a)) {i : Nat} {b : Acquire}
    (hi : v.tasks[i]? = some (.acquire b)) : b.Booked config target (s.passages i) := by
  obtain ⟨_, hcases⟩ := h.task_cases
  rcases hcases i with hsame | ⟨-, k, k', hk, hk', hmoves⟩ | ⟨hnone, k', hk', hnew⟩
  · exact hs.booked i b (hsame.symm.trans hi)
  · obtain rfl : k' = .acquire b := Option.some.inj (hk'.symm.trans hi)
    cases hmoves with
    | @acquire a _ _ _ =>
      obtain rfl : a = b := Task.acquire.inj (Option.some.inj ((hidle i a hk).symm.trans hi))
      exact hs.booked i a hk
  · obtain rfl : k' = .acquire b := Option.some.inj (hk'.symm.trans hi)
    rw [hs.passages_eq_nil hnone]
    cases hnew with
    | acquire config' options now =>
      refine Acquire.booked_nil ?_
      rcases Acquire.start_stage config' options now with hst | hst
      · rw [hst]
        exact .inl trivial
      · exact .inr hst

theorem Step.sound (h : Step s s') (hs : s.Sound config target) : s'.Sound config target := by
  have hsystem := h.system
  obtain ⟨hconfig, htarget⟩ := hsystem.config_eq
  have hcounted := hsystem.counted hs.counted
  cases h with
  | @move i a a' p x _ hi h =>
    have hlt := (List.getElem?_eq_some_iff.mp hi).1
    have hmoved := (hs.booked i a hi).move h hs.config_eq hs.target_eq
      (System.Counted.le hs.counted hi)
    obtain ⟨hasked, hgeneration⟩ := h.spec.2.generation
    constructor
    · exact hconfig.trans hs.config_eq
    · exact htarget.trans hs.target_eq
    · exact hcounted
    · rw [numbers, List.map_append, List.map_singleton, Passage.exchanges_concat,
        Exchange.numbers_append, hasked]
      refine (congrArg (· ++ _) hs.numbers_eq).trans ?_
      rw [Nat.add_comm s.pool.generation 1, List.range'_append_1, ← hgeneration]
    · refine List.forall_mem_append.mpr ⟨fun y hy ↦ ?_, ?_⟩
      · obtain ⟨b, hb⟩ := hs.listed y hy
        by_cases hyi : i = y.1
        · exact ⟨a', hyi ▸ List.getElem?_set_self hlt⟩
        · exact ⟨b, (List.getElem?_set_ne hyi).trans hb⟩
      · exact List.forall_mem_singleton.mpr ⟨a', List.getElem?_set_self hlt⟩
    · intro j b hj
      by_cases hij : i = j
      · subst hij
        obtain rfl : a' = b := by
          rw [List.getElem?_set_self hlt] at hj
          exact Task.acquire.inj (Option.some.inj hj)
        rw [passages_concat_self]
        exact hmoved
      · rw [passages_concat_of_ne hij]
        exact hs.booked j b ((List.getElem?_set_ne hij).symm.trans hj)
  | @other _ v h hidle =>
    constructor
    · exact hconfig.trans hs.config_eq
    · exact htarget.trans hs.target_eq
    · exact hcounted
    · exact hs.numbers_eq.trans (congrArg (List.range' 1) (generation_of_idle h hidle).symm)
    · intro y hy
      obtain ⟨b, hb⟩ := hs.listed y hy
      exact ⟨b, hidle _ b hb⟩
    · intro j b hj
      exact hs.booked_of_idle h hidle hj

theorem sound_start (config : PoolConfig) (target : String) (now : Nat) :
    (start κ config target now).Sound config target := by
  have hcounted : (start κ config target now).Counted := by
    rw [System.Counted, start, System.start]
    split
    · rfl
    · rfl
  refine ⟨rfl, rfl, hcounted, rfl, List.forall_mem_nil _, fun i a hi ↦ Acquire.booked_nil ?_⟩
  have hmem := List.mem_of_getElem? hi
  rw [start, System.start] at hmem
  split at hmem
  · obtain rfl : a = .startEager now := Task.acquire.inj (List.mem_singleton.mp hmem)
    exact .inl trivial
  · cases hmem

theorem sound_of_reachable (h : ReflTransGen Step (start κ config target now) s) :
    s.Sound config target := by
  induction h with
  | refl => exact sound_start config target now
  | tail _ hstep ih => exact hstep.sound ih

/-! ## Creations -/

/-- **A creation is tried again and again, but not for ever, and a failed one leaves nothing.**

The factory is asked with the numbers from one on, each of them once. An acquisition asks no more
often than it may, and with growing numbers. The first connection that it is given is the last thing
that it asks for, and it ends with that connection, unless it has found the pool closed. When every
attempt has failed, it fails too, with the number of attempts and the last error; it fails so for no
other reason, and does not end before, unless its caller gives up. And if it fails so, or its caller
gives up, then its moves have come to nothing. -/
theorem creation_retried_or_undone
    (h : ReflTransGen Step (start κ config target now) s) :
    s.numbers = List.range' 1 s.pool.generation ∧
    (s.pool.generation < 2 ^ 64 → (s.numbers.map UInt64.ofNat).Nodup) ∧
    ∀ (i : Nat) (a : Acquire), s.tasks[i]? = some (.acquire a) →
      (Exchange.numbers (s.exchanges i)).length ≤ Acquire.attempts config ∧
      (Exchange.numbers (s.exchanges i)).Pairwise (· < ·) ∧
      (∀ (m : Nat) (c : κ), .made m c ∈ s.exchanges i →
        (∃ xs, s.exchanges i = xs ++ [.made m c] ∧ ∀ (n : Nat) (d : κ), .made n d ∉ xs) ∧
        a.EndsWith κ fun o ↦ o = (if a.eager then .made m else .leased m) ∨
          o = .failed .poolClosed ∧ ∃ e ∈ s.passages i, e.before.closed = true) ∧
      ((Exchange.errors (s.exchanges i)).length = Acquire.attempts config →
        ∃ e, (Exchange.errors (s.exchanges i)).getLast? = some e ∧
          a.EndsWith κ (· = .failed (.connectFailed target
            s!"{Acquire.attempts config} attempts failed, last error: {e.message}"))) ∧
      (∀ address text, a.outcome? = some (.failed (.connectFailed address text)) →
        (Exchange.errors (s.exchanges i)).length = Acquire.attempts config ∧
        (Exchange.numbers (s.exchanges i)).length = Acquire.attempts config) ∧
      (Exchange.numbers (s.exchanges i) ≠ [] →
        (Exchange.errors (s.exchanges i)).length < Acquire.attempts config →
        (∀ (m : Nat) (c : κ), .made m c ∉ s.exchanges i) →
        ∀ o, a.outcome? = some o → o = .aborted) ∧
      (∀ o, a.outcome? = some o →
        (o = .aborted ∨ ∃ address text, o = .failed (.connectFailed address text)) →
        Passage.Undone (s.passages i)) := by
  have hs := sound_of_reachable h
  refine ⟨hs.numbers_eq, ?_, fun i a hi ↦ ?_⟩
  · intro hlt
    rw [hs.numbers_eq]
    refine List.Nodup.map_on (fun m hm n hn heq ↦ ?_) List.nodup_range'
    rw [List.mem_range'_1] at hm hn
    -- as words they differ until the counter wraps around
    have hnat := congrArg UInt64.toNat heq
    rw [UInt64.toNat_ofNat', UInt64.toNat_ofNat'] at hnat
    omega
  · have hbooked := hs.booked i a hi
    have hrecorded := hbooked.recorded
    refine ⟨hrecorded.length_numbers_le, ?_, ?_, ?_, ?_, ?_, ?_⟩
    · have hsorted : s.numbers.Pairwise (· < ·) := by
        rw [hs.numbers_eq]
        exact List.pairwise_lt_range'
      exact hsorted.sublist (s.numbers_exchanges_sublist i)
    · intro m c hm
      obtain ⟨hlast, hstage⟩ := hrecorded.of_made hm
      refine ⟨hlast, ?_⟩
      rcases hstage with hst | hst | ⟨rest, o, hst, ho⟩
      · exact Acquire.endsWith_of_inHand (.inl hst)
      · exact Acquire.endsWith_of_inHand (.inr hst)
      · refine Acquire.endsWith_of_ending hst (ho.imp_right ?_)
        rintro rfl
        exact ⟨rfl, hbooked.closed rest hst⟩
    · intro hall
      obtain ⟨rest, e, hlast, hst⟩ := hrecorded.of_length_errors hall
      exact ⟨e, hlast, Acquire.endsWith_of_ending hst rfl⟩
    · intro address text ho
      rw [Acquire.stage_of_outcome? ho] at hrecorded
      exact hrecorded.of_connectFailed
    · intro hasked hmore hnone o ho
      rw [Acquire.stage_of_outcome? ho] at hrecorded
      exact hrecorded.aborted hasked hmore hnone
    · intro o ho hfailed
      refine hbooked.undone (Acquire.stage_of_outcome? ho) ?_
      rcases hfailed with rfl | ⟨address, text, rfl⟩
      · trivial
      · exact TransportError.noConfusion

/-- The factory fails twice, and no third attempt is made. -/
theorem creation_retried_or_undone_refused :
    ∃ (s : Chronicle Connection) (a : Acquire),
      ReflTransGen Step (start Connection
        { PoolConfig.standard with maxSize := 1, maxCreateRetries := 1 } "target" 0) s ∧
      s.tasks[0]? = some (.acquire a) ∧
      a.outcome? = some (.failed (.connectFailed "target"
        "2 attempts failed, last error: connect to target failed: refused")) ∧
      s.numbers = [1, 2] ∧ s.pool.permits = 1 ∧ s.pool.creating = 0 ∧
      Passage.Undone (s.passages 0) := by
  let config : PoolConfig := { PoolConfig.standard with maxSize := 1, maxCreateRetries := 1 }
  let e : TransportError := .connectFailed "target" "refused"
  have hmove {a a' : Acquire} {p p' : Pool Connection}
      (hrun : ReflTransGen System.Step (System.start Connection config "target" 0)
        ⟨p, [.acquire a]⟩) (h : a.Moves p a' p') :
      ReflTransGen System.Step (System.start Connection config "target" 0) ⟨p', [.acquire a']⟩ :=
    hrun.tail (.move 0 rfl (.acquire h))
  have hstep (now : Nat) {a a' : Acquire} {p p' : Pool Connection}
      (hrun : ReflTransGen System.Step (System.start Connection config "target" 0)
        ⟨p, [.acquire a]⟩) (h : a.step p now = some (a', p')) :
      ReflTransGen System.Step (System.start Connection config "target" 0) ⟨p', [.acquire a']⟩ :=
    hmove hrun (.step h)
  have h₁ : ReflTransGen System.Step (System.start Connection config "target" 0)
      ⟨Pool.start config "target", [.acquire (.start config .standard 0)]⟩ :=
    .single (.acquire .standard 0 _)
  -- it finds no connection to share, takes the permit and asks
  have h₂ := hstep 0 h₁ rfl
  have h₃ := hstep 0 h₂ rfl
  have h₄ := hstep 0 h₃ rfl
  have h₅ := hstep 0 h₄ rfl
  have h₆ := hstep 0 h₅ rfl
  have h₇ := hstep 0 h₆ rfl
  -- the first attempt fails, and it waits before the next
  have h₈ := hmove h₇ (.refused rfl 0 e _)
  have h₉ := hstep config.retryDelay h₈ rfl
  have h₁₀ := hstep config.retryDelay h₉ rfl
  -- so does the second: there is no third, the count is left and the permit goes back
  have h₁₁ := hmove h₁₀ (.refused rfl config.retryDelay e _)
  have h₁₂ := hstep config.retryDelay h₁₁ rfl
  have h₁₃ := hstep config.retryDelay h₁₂ rfl
  obtain ⟨s, hs, hsystem⟩ := exists_chronicle h₁₃
  obtain ⟨hnumbers, -, hall⟩ := creation_retried_or_undone hs
  have hi := congrArg (·.tasks[0]?) hsystem
  obtain ⟨-, -, -, -, -, -, hundone⟩ := hall 0 _ hi
  have htext : s!"{Acquire.attempts config} attempts failed, last error: {e.message}" =
      "2 attempts failed, last error: connect to target failed: refused" := by decide
  rw [← htext]
  refine ⟨s, _, hs, hi, rfl, ?_, congrArg (·.pool.permits) hsystem,
    congrArg (·.pool.creating) hsystem, hundone _ rfl (.inr ⟨_, _, rfl⟩)⟩
  rw [hnumbers, hsystem]
  rfl

end Chronicle

end Pool

end RpcTransport
