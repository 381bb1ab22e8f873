import RpcTransport.Connection
import RpcTransport.Proofs.Config.Settings
import RpcTransport.Proofs.Frame.RoundTrip
import RpcTransport.Proofs.Pool.Overflow
import RpcTransport.Proofs.TimingWheel.Range

/-!
# How large a setting may be

A setting may be as large as its field can hold, and so may the delays that callers give. Wherever
such a magnitude is clamped first, nothing comes of it: deadlines of requests and of timers can be
told, creations do not miscount their attempts, and no frame is larger than a word can tell. Three
magnitudes are not clamped, and each does harm from some size on, and only from there on:

* the time to wait for a connection or for a creation under way. It is added to the clock, which may
  overflow then; the times of an environment are too short for that, if the clock shows an instant
  before the middle of what it can tell;
* the size of a pool, which has as many permits;
* the sizes of the queues for what is to be written and to be decoded. Zero is clamped here, but the
  other end is not.

## Main statements

`TransportConfig.Magnitudes` says this of a configuration, and `TransportConfig.magnitudes` is that
it holds of every one.
-/

namespace RpcTransport

open Relation (ReflTransGen)

/-! ## Numbers of an environment -/

/-- A number that is read from an environment is not over its bound, if the default is not. -/
theorem Environment.read_number_le (env : Environment) (key : String) {bound default : Nat}
    (h : default ≤ bound) : env.read key (number? bound) default ≤ bound := by
  rw [read]
  cases hread : (env key).bind (number? bound) with
  | none => exact h
  | some n =>
    obtain ⟨text, -, hn⟩ := Option.bind_eq_some_iff.mp hread
    exact Numeral.le_of_value? hn

theorem word64_le_midway : word64 ≤ Clock.midway := by decide

theorem PoolConfig.acquireTimeout_ofEnvironment_le (env : Environment) :
    (ofEnvironment env).acquireTimeout ≤ Clock.midway :=
  Nat.le_trans (env.read_number_le _ (by decide)) word64_le_midway

theorem PoolConfig.inFlightWait_ofEnvironment_le (env : Environment) :
    (ofEnvironment env).inFlightWait ≤ Clock.midway :=
  Nat.le_trans (env.read_number_le _ (by decide)) word64_le_midway

/-! ## Sizes of frames -/

namespace Frame

theorem announcedSize_le (buffer : Bytes) : announcedSize buffer ≤ maxPayload := by
  have hlt := Bytes.ofBigEndian_lt ((buffer.drop 12).take 4)
  have hpow : 256 ^ ((buffer.drop 12).take 4).length ≤ 256 ^ 4 :=
    Nat.pow_le_pow_right (by decide) (List.length_take_le _ _)
  exact Nat.le_of_lt_succ (Nat.lt_of_lt_of_le hlt hpow)

theorem length_encode_le {limit : Nat} {f : Frame} {octets : Bytes}
    (h : f.encode limit = .ok octets) : octets.length ≤ headerSize + clampLimit limit := by
  rw [encode] at h
  split at h
  · cases h
  · next hle =>
    obtain rfl := Except.ok.inj h
    rw [List.length_append, length_header]
    exact Nat.add_le_add_left (Nat.not_lt.mp hle) _

end Frame

/-! ## What cannot be opened -/

theorem Pool.open?_eq_none_iff {κ : Type} {config : PoolConfig} {target : String} :
    (open? config target : Option (Pool κ)) = none ↔ Semaphore.most < config.maxSize := by
  rw [open?, Option.map_eq_none_iff, Semaphore.permits?_eq_none_iff]

theorem Connection.open?_eq_none_iff {info : ConnectionInfo} {config : ConnectionConfig}
    {registry : Registry} {dispatcher : Dispatcher} :
    open? info config registry dispatcher = none ↔ Semaphore.most < config.outboundQueue := by
  rw [open?, Option.map_eq_none_iff, capacity]
  exact Semaphore.places?_max_one_eq_none_iff

/-- **A queue for what is to be written** has a place at least, and no more than can be. -/
theorem Connection.capacity_of_open? {info : ConnectionInfo} {config : ConnectionConfig}
    {registry : Registry} {dispatcher : Dispatcher} {c : Connection}
    (h : open? info config registry dispatcher = some c) :
    1 ≤ c.capacity ∧ c.capacity ≤ Semaphore.most := by
  rw [open?, Option.map_eq_some_iff] at h
  obtain ⟨places, hplaces, rfl⟩ := h
  exact (Semaphore.places?_eq_some_iff.mp hplaces).2

theorem Dispatcher.open?_eq_none_iff {registry : Registry} {processors : Nat}
    {config : DispatchConfig} :
    open? registry processors config = none ↔
      (ofConfig registry processors config).workers ≠ 0 ∧
        Semaphore.most < config.queueCapacity := by
  rw [open?]
  split
  · next hnone => exact iff_of_false nofun fun h ↦ h.1 hnone
  · next hworkers =>
    rw [Option.map_eq_none_iff, and_iff_right hworkers]
    exact Semaphore.places?_max_one_eq_none_iff

/-- **A queue for what is to be decoded**, too, if there is one. -/
theorem Dispatcher.capacity_of_open? {registry : Registry} {processors : Nat}
    {config : DispatchConfig} {d : Dispatcher} (h : open? registry processors config = some d) :
    1 ≤ d.capacity ∧ (d.workers ≠ 0 → d.capacity ≤ Semaphore.most) := by
  rw [open?] at h
  split at h
  · next hnone =>
    obtain rfl := Option.some.inj h
    exact ⟨Nat.le_max_right _ _, fun hworkers ↦ absurd hnone hworkers⟩
  · obtain ⟨places, hplaces, rfl⟩ := Option.map_eq_some_iff.mp h
    obtain ⟨rfl, hpos, hle⟩ := Semaphore.places?_eq_some_iff.mp hplaces
    exact ⟨hpos, fun _ ↦ hle⟩

/-! ## What magnitudes do -/

namespace TransportConfig

/-- **What comes of the magnitudes of a configuration**, and of the delays that callers give. -/
structure Magnitudes (config : TransportConfig) (options : AcquireOptions) : Prop where
  /-- No request waits longer than a timer can be armed for. -/
  requests : ∀ now < Clock.midway, ∀ timeout,
    Pending.deadline? now timeout = some (now + min timeout Clock.longestTimer)
  /-- The due times in a wheel can be told, and so can those that it has yet to take. -/
  timers : ∀ (τ : Type) [DecidableEq τ] (s : TimingWheel.System τ),
    ReflTransGen TimingWheel.System.Step .start s → s.wheel.now < Clock.midway →
      (∀ q ∈ s.wheel.agenda.queue, q.due < Clock.horizon) ∧
      ∀ token target id delay, .schedule token target id delay ∈ s.wheel.commands →
        Clock.after? s.wheel.now delay = some (s.wheel.now + delay)
  /-- An acquisition overflows at its start if the time it is given reaches too far. -/
  starts : ∀ now, (Acquire.start config.pool options now).overflowed = true ↔
    Clock.horizon ≤ now + options.timeout.getD config.pool.acquireTimeout
  /-- It overflows in a step if it would wait for a creation, and the time for that reaches too
  far. -/
  steps : ∀ (a a' : Acquire) (p p' : Pool Connection) now, a.step p now = some (a', p') →
    (a'.overflowed = true ↔
      a.overflowed = true ∨ (∃ seen, a.stage = .deciding seen) ∧ a.Untold p now)
  /-- Either takes a time that is longer than half of what the clock can tell. -/
  acquisitions : ∀ a, Acquire.Life Connection config.pool options Clock.midway a →
    a.overflowed = true → Clock.midway < options.timeout.getD config.pool.acquireTimeout ∨
      (config.pool.blockWhenExhausted = false ∧ options.lastAttempt = true ∧
        config.pool.waitForInFlight = true) ∧ Clock.midway < config.pool.inFlightWait
  /-- The times of an environment do not reach so far. -/
  environment : ∀ env, config = .ofEnvironment env →
    (∀ timeout ∈ options.timeout, timeout ≤ Clock.midway) →
    ∀ a, Acquire.Life Connection config.pool options Clock.midway a → a.overflowed = false
  /-- The number of attempts fits its word, and no creation gets past it. -/
  attempts : 1 ≤ Acquire.attempts config.pool ∧ Acquire.attempts config.pool ≤ word32 ∧
    ∀ a, Acquire.Life Connection config.pool options Clock.midway a → ∀ made ∈ a.stage.made?,
      made < Acquire.attempts config.pool
  /-- With its header the largest frame that may be written fits a word, and so does whatever a
  header announces. -/
  frames : (∀ (f : Frame) octets, f.encode config.connection.payloadLimit = .ok octets →
      octets.length ≤ Frame.headerSize + Frame.clampLimit config.connection.payloadLimit) ∧
    Frame.headerSize + Frame.clampLimit config.connection.payloadLimit ≤ word64 ∧
    ∀ buffer, Frame.headerSize + Frame.announcedSize buffer ≤ word64
  /-- Only a pool of more than the most permits cannot be opened. -/
  pool : ∀ target, (Pool.open? config.pool target : Option (Pool Connection)) = none ↔
    Semaphore.most < config.pool.maxSize
  /-- Only a queue of more than the most places cannot be, and any other has a place at least. -/
  outbound : ∀ info registry dispatcher,
    (Connection.open? info config.connection registry dispatcher = none ↔
      Semaphore.most < config.connection.outboundQueue) ∧
    ∀ c, Connection.open? info config.connection registry dispatcher = some c →
      1 ≤ c.capacity ∧ c.capacity ≤ Semaphore.most
  decoding : ∀ registry processors,
    (Dispatcher.open? registry processors config.dispatch = none ↔
      (Dispatcher.ofConfig registry processors config.dispatch).workers ≠ 0 ∧
        Semaphore.most < config.dispatch.queueCapacity) ∧
    ∀ d, Dispatcher.open? registry processors config.dispatch = some d →
      1 ≤ d.capacity ∧ (d.workers ≠ 0 → d.capacity ≤ Semaphore.most)

variable {config : TransportConfig} {options : AcquireOptions}

theorem overflow_cause {a : Acquire}
    (h : Acquire.Life Connection config.pool options Clock.midway a) (ho : a.overflowed = true) :
    Clock.midway < options.timeout.getD config.pool.acquireTimeout ∨
      (config.pool.blockWhenExhausted = false ∧ options.lastAttempt = true ∧
        config.pool.waitForInFlight = true) ∧ Clock.midway < config.pool.inFlightWait := by
  rcases h.cause ho with hlt | ⟨hwaits, hlt⟩
  · exact .inl (Nat.lt_of_add_lt_add_left (Clock.midway_add_midway ▸ hlt))
  · exact .inr ⟨hwaits, Nat.lt_of_add_lt_add_left (Clock.midway_add_midway ▸ hlt)⟩

/-- **Every configuration keeps to this.** -/
theorem magnitudes (config : TransportConfig) (options : AcquireOptions) :
    config.Magnitudes options where
  requests := fun now hnow timeout ↦ Clock.after?_clamp hnow timeout
  timers := by
    intro τ _ s h hnow
    obtain ⟨hdue, htold⟩ := TimingWheel.System.dues_told h
    have hreach := Clock.add_lt_horizon hnow Clock.longestTimer_le_midway
    exact ⟨fun q hq ↦ Nat.lt_of_le_of_lt (hdue q hq) hreach, htold hnow⟩
  starts := fun _ ↦ Acquire.start_overflowed_iff
  steps := fun _ _ _ _ _ h ↦ (Acquire.fares_of_step h).overflowed_iff
  acquisitions := fun _ ↦ overflow_cause
  environment := by
    rintro env rfl htimeout a h
    refine Bool.eq_false_of_not_eq_true fun ho ↦ ?_
    rcases overflow_cause h ho with hlt | ⟨-, hlt⟩
    · cases hgiven : options.timeout with
      | none =>
        rw [hgiven, Option.getD_none] at hlt
        exact Nat.not_lt.mpr (PoolConfig.acquireTimeout_ofEnvironment_le env) hlt
      | some timeout =>
        rw [hgiven, Option.getD_some] at hlt
        exact Nat.not_lt.mpr (htimeout timeout hgiven) hlt
    · exact Nat.not_lt.mpr (PoolConfig.inFlightWait_ofEnvironment_le env) hlt
  attempts := ⟨Acquire.attempts_pos _, Acquire.attempts_le _, fun _ h ↦ h.made_lt⟩
  frames := by
    refine ⟨fun f octets ↦ Frame.length_encode_le, ?_, fun buffer ↦ ?_⟩
    · exact Nat.le_trans (Nat.add_le_add_left (Nat.min_le_right _ _) _) (by decide)
    · exact Nat.le_trans (Nat.add_le_add_left (Frame.announcedSize_le buffer) _) (by decide)
  pool := fun _ ↦ Pool.open?_eq_none_iff
  outbound := fun _ _ _ ↦ ⟨Connection.open?_eq_none_iff, fun _ ↦ Connection.capacity_of_open?⟩
  decoding := fun _ _ ↦ ⟨Dispatcher.open?_eq_none_iff, fun _ ↦ Dispatcher.capacity_of_open?⟩

/-- The longest time that does no harm, given at the last instant before the middle of what the
clock can tell, ends at its last one. -/
theorem magnitudes_longest_wait :
    ∃ a, Acquire.Life Connection PoolConfig.standard ⟨some Clock.midway, false⟩ Clock.midway a ∧
      a.overflowed = false ∧ a.deadline + 1 = Clock.horizon := by
  have hlife : Acquire.Life Connection PoolConfig.standard ⟨some Clock.midway, false⟩ Clock.midway
      (.start .standard ⟨some Clock.midway, false⟩ (Clock.midway - 1)) := .start (by decide)
  refine ⟨_, hlife, ?_, rfl⟩
  refine (magnitudes (.ofEnvironment fun _ ↦ none) _).environment _ rfl ?_ _ hlife
  rintro timeout ⟨⟩
  exact Nat.le_refl _

/-- **What is too large.** A time to acquire a connection overflows the clock, and so does a time to
wait for a creation that is under way; and from an environment come a pool and two queues that
cannot be opened. -/
theorem magnitudes_too_large :
    (Acquire.start .standard ⟨some Clock.longest, false⟩ 0).overflowed = true ∧
    (∃ s, ReflTransGen Pool.System.Step (.start Connection { PoolConfig.standard with
        maxSize := 1
        blockWhenExhausted := false
        inFlightWait := Clock.longest } "target" 0) s ∧
      ∃ a, .acquire a ∈ s.tasks ∧ a.overflowed = true) ∧
    (Pool.open? (.ofEnvironment (.single "MUXWIRE_POOL_MAX_SIZE" "2305843009213693952")) "target" :
      Option (Pool Connection)) = none ∧
    (∀ info registry dispatcher, Connection.open? info
      (.ofEnvironment (.single "MUXWIRE_OUTBOUND_QUEUE" "2305843009213693952")) registry
        dispatcher = none) ∧
    Dispatcher.open? .standard 1
      (.ofEnvironment (.single "MUXWIRE_DISPATCH_QUEUE" "2305843009213693952")) = none := by
  refine ⟨rfl, ?_, Pool.open?_eq_none_iff.mpr (by decide),
    fun _ _ _ ↦ Connection.open?_eq_none_iff.mpr (by decide),
    Dispatcher.open?_eq_none_iff.mpr (by decide)⟩
  -- The first caller's creation is under way when the second makes its last attempt.
  have h₁ := ReflTransGen.single (Pool.System.Step.acquire .standard 0
    (.start Connection { PoolConfig.standard with
      maxSize := 1
      blockWhenExhausted := false
      inFlightWait := Clock.longest } "target" 0))
  have h₂ := h₁.trans (Pool.System.reachable_run 0 0 6 rfl)
  have h₃ := h₂.tail (.acquire ⟨none, true⟩ 0 _)
  have h₄ := h₃.trans (Pool.System.reachable_run 1 0 8 rfl)
  exact ⟨_, h₄, _, List.mem_cons_of_mem _ List.mem_cons_self, rfl⟩

end TransportConfig

end RpcTransport
