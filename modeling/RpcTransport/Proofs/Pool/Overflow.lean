import RpcTransport.Proofs.Pool.Creations

/-!
# Deadlines out of reach

An acquisition tells two deadlines: when it starts, and when it first waits for a creation that is
under way. Neither delay is clamped, so either deadline may be one that the clock cannot tell. There
is no other place where this happens (`Acquire.fares_of_step`), and what it takes is a delay that
reaches from an instant of the acquisition past all that can be told (`Acquire.Life.cause`).

## The life of an acquisition

Others do with the pool as they like, and nothing is asked of them here but that they leave its
configuration alone: between two moves of an acquisition the pool may be any pool of that
configuration (`Acquire.Life`). So it is in every run of a pool (`Pool.System.exists_life`).
-/

namespace RpcTransport

/-- How many attempts of a creation have failed, while it goes on. -/
def AcquireStage.made? : AcquireStage → Option Nat
  | .attempting made | .connecting made _ | .pausing made _ => some made
  | _ => none

theorem AcquireStage.Looks.made?_eq_none {st : AcquireStage} (h : st.Looks) : st.made? = none := by
  cases st with
  | attempting | connecting | pausing => exact h.elim
  | _ => rfl

theorem AcquireStage.Trades.made_lt {κ : Type} [Closable κ] {eager : Bool} {st st' : AcquireStage}
    {p p' : Pool κ} {x : Option (Exchange κ)} (h : st.Trades eager p x st' p')
    (hst : ∀ made ∈ st.made?, made < Acquire.attempts p.config) :
    ∀ made ∈ st'.made?, made < Acquire.attempts p.config := by
  cases h with
  | look _ hst' =>
    rw [hst'.made?_eq_none]
    exact nofun
  | enter =>
    rintro made ⟨⟩
    exact Acquire.attempts_pos p.config
  | ask | resume => exact hst
  | retry h =>
    rintro made ⟨⟩
    exact h
  | _ => exact nofun

namespace Acquire

/-- A deadline was later than the clock can tell. -/
def overflowed (a : Acquire) : Bool :=
  match a.stage with
  | .ending _ .overflow => true
  | _ => false

variable {κ : Type} {a a' : Acquire} {p p' : Pool κ} {config : PoolConfig}
  {options : AcquireOptions} {now latest : Nat}

/-! ## Where deadlines are told -/

theorem start_overflowed_iff : (start config options now).overflowed = true ↔
    Clock.horizon ≤ now + options.timeout.getD config.acquireTimeout := by
  rw [← Clock.after?_eq_none_iff, start]
  split
  · next deadline htold =>
    rw [htold]
    exact iff_of_false Bool.false_ne_true (Option.some_ne_none deadline)
  · next huntold => exact iff_of_true rfl huntold

theorem start_lastAttempt (config : PoolConfig) (options : AcquireOptions) (now : Nat) :
    (start config options now).lastAttempt = options.lastAttempt := by
  rw [start]
  split
  · rfl
  · rfl

/-- The acquisition would wait for a creation under way, for the first time, and until an instant
that the clock cannot tell. -/
structure Untold (a : Acquire) (p : Pool κ) (now : Nat) : Prop where
  unblocked : p.config.blockWhenExhausted = false
  last : a.lastAttempt = true
  waits : p.config.waitForInFlight = true
  creating : 0 < p.creating
  first : a.inFlightDeadline = none
  horizon_le : Clock.horizon ≤ now + p.config.inFlightWait

/-- What a step does about the deadlines of an acquisition. -/
structure Fares (a : Acquire) (p : Pool κ) (now : Nat) (a' : Acquire) : Prop where
  last_eq : a'.lastAttempt = a.lastAttempt
  overflowed_iff : a'.overflowed = true ↔
    a.overflowed = true ∨ (∃ seen, a.stage = .deciding seen) ∧ a.Untold p now

theorem Fares.of_eq (hst : ¬ ∃ seen, a.stage = .deciding seen)
    (hlast : a'.lastAttempt = a.lastAttempt) (hsame : a'.overflowed = a.overflowed) :
    a.Fares p now a' where
  last_eq := hlast
  overflowed_iff := by
    rw [hsame, or_iff_left fun hdeciding ↦ hst hdeciding.1]

/-- **Who would wait for a creation under way comes upon such a deadline**, and nobody else does. -/
theorem waitUntil_eq_overflow_iff :
    a.waitUntil p now = (none, a.finish [] .overflow) ↔ a.Untold p now := by
  have hwaits (deadline : Nat) (b : Acquire) :
      ((some deadline, b) : Option Nat × Acquire) ≠ (none, a.finish [] .overflow) :=
    fun heq ↦ Option.some_ne_none deadline (congrArg Prod.fst heq)
  rw [waitUntil]
  by_cases hblock : p.config.blockWhenExhausted = true
  · rw [if_pos hblock]
    refine iff_of_false (hwaits _ _) fun hu ↦ ?_
    exact Bool.false_ne_true (hu.unblocked.symm.trans hblock)
  rw [if_neg hblock]
  by_cases hflight : a.lastAttempt = true ∧ p.config.waitForInFlight = true ∧ p.creating > 0
  · rw [if_pos hflight]
    obtain ⟨hlast, hflight, hcreating⟩ := hflight
    cases hdeadline : a.inFlightDeadline with
    | some deadline =>
      refine iff_of_false (hwaits _ _) fun hu ↦ ?_
      exact Option.some_ne_none deadline (hdeadline.symm.trans hu.first)
    | none =>
      dsimp only
      cases htold : Clock.after? now p.config.inFlightWait with
      | some deadline =>
        refine iff_of_false (hwaits _ _) fun hu ↦ ?_
        have huntold := Clock.after?_eq_none_iff.mpr hu.horizon_le
        exact Option.some_ne_none deadline (htold.symm.trans huntold)
      | none =>
        exact iff_of_true rfl ⟨eq_false_of_ne_true hblock, hlast, hflight, hcreating, hdeadline,
          Clock.after?_eq_none_iff.mp htold⟩
  · rw [if_neg hflight]
    refine iff_of_false (fun heq ↦ ?_) fun hu ↦ hflight ⟨hu.last, hu.waits, hu.creating⟩
    have houtcome : AcquireStage.ending [] (.failed (.poolExhausted p.config.maxSize)) =
        .ending [] .overflow := congrArg (·.2.stage) heq
    cases houtcome

section

variable [Closable κ]

/-- **Only who decides whether to wait comes upon a deadline that the clock cannot tell.** -/
theorem fares_of_step (h : a.step p now = some (a', p')) : a.Fares p now a' := by
  obtain ⟨lastAttempt, eager, deadline, inFlightDeadline, stage⟩ := a
  cases does_of_step h with
  | wait hwait =>
    refine ⟨rfl, iff_of_false Bool.false_ne_true ?_⟩
    rintro (hover | ⟨-, hu⟩)
    · cases hover
    · cases hwait.symm.trans (waitUntil_eq_overflow_iff.mpr hu)
  | giveUp ho hwait =>
    refine ⟨rfl, ?_⟩
    rcases ho with rfl | rfl
    · exact iff_of_true rfl (.inr ⟨⟨_, rfl⟩, waitUntil_eq_overflow_iff.mp hwait⟩)
    · refine iff_of_false Bool.false_ne_true ?_
      rintro (hover | ⟨-, hu⟩)
      · cases hover
      · cases hwait.symm.trans (waitUntil_eq_overflow_iff.mpr hu)
  | adopt =>
    -- Whose connection it is decides on the outcome, but neither outcome is an overflow.
    cases eager with
    | _ => exact .of_eq (by rintro ⟨_, ⟨⟩⟩) rfl rfl
  | @act _ _ o =>
    cases o with
    | _ => exact .of_eq (by rintro ⟨_, ⟨⟩⟩) rfl rfl
  | refuse | check | listen | pick | busy | reserve | forgo | noPermit | enter | attempt | resume
  | hold | reject | share | noShare | again | expire =>
    exact .of_eq (by rintro ⟨_, ⟨⟩⟩) rfl rfl

/-! ## Moves before some instant -/

/-- A move of an acquisition, made before some instant if it looks at the clock. -/
inductive MovesBefore (latest : Nat) : Acquire → Pool κ → Acquire → Pool κ → Prop where
  | step {a a' : Acquire} {p p' : Pool κ} {now : Nat} (hnow : now < latest)
      (h : a.step p now = some (a', p')) : MovesBefore latest a p a' p'
  | connected {a : Acquire} {made generation : Nat} (h : a.stage = .connecting made generation)
      (c : κ) (p : Pool κ) : MovesBefore latest a p (a.connected p c).1 (a.connected p c).2
  | refused {a : Acquire} {made generation : Nat} (h : a.stage = .connecting made generation)
      {now : Nat} (hnow : now < latest) (e : TransportError) (p : Pool κ) :
      MovesBefore latest a p (a.refused p now e) p
  | abort {a a' : Acquire} (h : a.abort = some a') (p : Pool κ) : MovesBefore latest a p a' p

theorem MovesBefore.moves (h : a.MovesBefore latest p a' p') : a.Moves p a' p' := by
  cases h with
  | step hnow h => exact .step h
  | connected h c => exact .connected h c p
  | refused h hnow e => exact .refused h _ e p
  | abort h => exact .abort h p

theorem Moves.exists_before (h : a.Moves p a' p') : ∃ latest, a.MovesBefore latest p a' p' := by
  cases h with
  | step h => exact ⟨_, .step (Nat.lt_succ_self _) h⟩
  | connected h c => exact ⟨0, .connected h c p⟩
  | refused h now e => exact ⟨_, .refused h (Nat.lt_succ_self now) e p⟩
  | abort h => exact ⟨0, .abort h p⟩

theorem MovesBefore.mono (h : a.MovesBefore latest p a' p') {later : Nat} (hle : latest ≤ later) :
    a.MovesBefore later p a' p' := by
  cases h with
  | step hnow h => exact .step (Nat.lt_of_lt_of_le hnow hle) h
  | connected h c => exact .connected h c p
  | refused h hnow e => exact .refused h (Nat.lt_of_lt_of_le hnow hle) e p
  | abort h => exact .abort h p

/-- What a move before some instant does about the deadlines. -/
theorem MovesBefore.fares (h : a.MovesBefore latest p a' p') :
    a'.lastAttempt = a.lastAttempt ∧ (a'.overflowed = true →
      a.overflowed = true ∨ ∃ now < latest, a.Untold p now) := by
  cases h with
  | step hnow h =>
    obtain ⟨hlast, hover⟩ := fares_of_step h
    refine ⟨hlast, fun ho ↦ (hover.mp ho).imp_right fun hu ↦ ?_⟩
    exact ⟨_, hnow, hu.2⟩
  | connected => exact ⟨rfl, fun ho ↦ absurd ho Bool.false_ne_true⟩
  | refused h hnow e =>
    rw [Acquire.refused]
    simp only [h]
    split
    · exact ⟨rfl, fun ho ↦ absurd ho Bool.false_ne_true⟩
    · exact ⟨rfl, fun ho ↦ absurd ho Bool.false_ne_true⟩
  | abort h =>
    rw [Acquire.abort] at h
    split at h
    · obtain rfl := Option.some.inj h
      exact ⟨rfl, fun ho ↦ absurd ho Bool.false_ne_true⟩
    · obtain rfl := Option.some.inj h
      exact ⟨rfl, fun ho ↦ absurd ho Bool.false_ne_true⟩
    · obtain rfl := Option.some.inj h
      exact ⟨rfl, fun ho ↦ absurd ho Bool.false_ne_true⟩
    · cases h

/-! ## Whole lives -/

/-- What becomes of an acquisition before some instant, whatever becomes of the pool. -/
inductive Life (κ : Type) [Closable κ] (config : PoolConfig) (options : AcquireOptions)
    (latest : Nat) : Acquire → Prop where
  | start {now : Nat} (hnow : now < latest) : Life κ config options latest (start config options now)
  /-- It makes the first connection of a pool. -/
  | eager {now : Nat} (hnow : now < latest) : Life κ config options latest (startEager now)
  | move {a a' : Acquire} {p p' : Pool κ} (h : Life κ config options latest a)
      (hconfig : p.config = config) (hmove : a.MovesBefore latest p a' p') :
      Life κ config options latest a'

theorem Life.mono (h : Life κ config options latest a) {later : Nat} (hle : latest ≤ later) :
    Life κ config options later a := by
  induction h with
  | start hnow => exact .start (Nat.lt_of_lt_of_le hnow hle)
  | eager hnow => exact .eager (Nat.lt_of_lt_of_le hnow hle)
  | move _ hconfig hmove ih => exact .move ih hconfig (hmove.mono hle)

theorem Life.lastAttempt (h : Life κ config options latest a) :
    a.lastAttempt = true → options.lastAttempt = true := by
  induction h with
  | start =>
    rw [start_lastAttempt]
    exact id
  | eager => exact fun hlast ↦ absurd hlast Bool.false_ne_true
  | move _ _ hmove ih =>
    rw [hmove.fares.1]
    exact ih

/-- **What a deadline out of reach takes.** Either the time that the caller gives the acquisition,
or the pool does, reaches too far; or, for a caller who will not try again, it is the time that the
pool gives to a creation under way, if it waits for that and for nothing else. -/
theorem Life.cause (h : Life κ config options latest a) (ho : a.overflowed = true) :
    Clock.horizon < latest + options.timeout.getD config.acquireTimeout ∨
      (config.blockWhenExhausted = false ∧ options.lastAttempt = true ∧
        config.waitForInFlight = true) ∧ Clock.horizon < latest + config.inFlightWait := by
  induction h with
  | start hnow =>
    have hle := start_overflowed_iff.mp ho
    exact .inl (Nat.lt_of_le_of_lt hle (Nat.add_lt_add_right hnow _))
  | eager => exact absurd ho Bool.false_ne_true
  | move h hconfig hmove ih =>
    rcases hmove.fares.2 ho with hold | ⟨now, hnow, hu⟩
    · exact ih hold
    · subst hconfig
      exact .inr ⟨⟨hu.unblocked, h.lastAttempt hu.last, hu.waits⟩,
        Nat.lt_of_le_of_lt hu.horizon_le (Nat.add_lt_add_right hnow _)⟩

/-! ## Attempts -/

theorem attempts_le (config : PoolConfig) : attempts config ≤ word32 := Nat.min_le_right _ _

/-- **A creation that goes on has an attempt left.** -/
theorem Life.made_lt (h : Life κ config options latest a) :
    ∀ made ∈ a.stage.made?, made < attempts config := by
  induction h with
  | start =>
    rcases start_stage config options _ with hst | hst
    · rw [hst]
      exact nofun
    · rw [hst]
      exact nofun
  | eager => exact nofun
  | move _ hconfig hmove ih =>
    obtain ⟨x, hx⟩ := hmove.moves.exists_trades
    subst hconfig
    exact hx.spec.2.made_lt ih

end

end Acquire

/-! ## Runs of a pool -/

namespace Pool.System

variable {κ : Type} [Closable κ] {s s' : System κ} {config : PoolConfig}

/-- Every acquisition of a pool lives such a life. -/
def Living (config : PoolConfig) (s : System κ) : Prop :=
  s.pool.config = config ∧ ∀ a, .acquire a ∈ s.tasks →
    ∃ options latest, Acquire.Life κ config options latest a

theorem Step.living (h : Step s s') (hs : s.Living config) : s'.Living config := by
  have hconfig : s'.pool.config = config := h.config_eq.1.trans hs.1
  refine ⟨hconfig, fun b hb ↦ ?_⟩
  cases h with
  | acquire options now =>
    rcases List.mem_append.mp hb with hold | hnew
    · exact hs.2 b hold
    · obtain rfl := Task.acquire.inj (List.mem_singleton.mp hnew)
      refine ⟨options, now + 1, ?_⟩
      rw [hs.1]
      exact .start (Nat.lt_succ_self now)
  | release | closeAll | wake => exact hs.2 b (by simpa using hb)
  | evolve => exact hs.2 b hb
  | @move i k k' p _ hi h =>
    rcases List.mem_or_eq_of_mem_set hb with hold | rfl
    · exact hs.2 b hold
    · cases h with
      | @acquire a _ _ _ h =>
        obtain ⟨options, latest, hlife⟩ := hs.2 a (List.mem_of_getElem? hi)
        obtain ⟨moment, hmove⟩ := h.exists_before
        exact ⟨options, max latest moment, .move (hlife.mono (Nat.le_max_left _ _)) hs.1
          (hmove.mono (Nat.le_max_right _ _))⟩

/-- **In every run of a pool each acquisition has lived its life.** -/
theorem exists_life {target : String} {now : Nat}
    (h : Relation.ReflTransGen Step (start κ config target now) s) : s.Living config := by
  induction h with
  | refl =>
    refine ⟨rfl, fun a ha ↦ ?_⟩
    simp only [start] at ha
    split at ha
    · obtain rfl := Task.acquire.inj (List.mem_singleton.mp ha)
      exact ⟨.standard, _, .eager (Nat.lt_succ_self now)⟩
    · exact absurd ha List.not_mem_nil
  | tail _ hstep ih => exact hstep.living ih

end Pool.System

end RpcTransport
