import Mathlib.Data.List.Nodup
import Mathlib.Logic.Function.Basic
import RpcTransport.Config

/-!
# One key for one field

The keys of an environment, each with the field that it sets and with what its text is read as
(`Setting`). The overlay reads each key so, and puts it into this field
(`Setting.ofEnvironment_eq_assemble`). A configuration is nothing but these fields and one that has
no key (`Setting.assemble_field`), so of two environments that differ in one key the configurations
differ in one field at the most.

Texts are trimmed before they are read. The path of a socket is not: it may be any text, and a blank
in it is a part of it.
-/

namespace RpcTransport

/-! ## Kinds -/

/-- What the text of a key is read as. -/
inductive SettingKind where
  | flag
  | number (bound : Nat)
  /-- A number, zero meaning "never". -/
  | interval
  /-- A number of one's own choice. -/
  | threads
  | address
  | path
  | serialization
deriving DecidableEq, Repr

namespace SettingKind

abbrev Value : SettingKind → Type
  | flag => Bool
  | number _ => Nat
  | interval | threads => Option Nat
  | address => SocketAddress
  | path => Option String
  | serialization => UInt8

def parse : (kind : SettingKind) → String → Option kind.Value
  | flag => flag?
  | number bound => number? bound
  | interval => interval?
  | threads => threads?
  | address => address?
  | path => path?
  | serialization => serializationId?

/-- **Blanks around a text do not count**, unless it is a path. -/
theorem parse_eq_of_trimBlank_eq {kind : SettingKind} (hkind : kind ≠ path) {s t : String}
    (h : trimBlank s.toList = trimBlank t.toList) : kind.parse s = kind.parse t := by
  have hnumber (bound : Nat) : number? bound s = number? bound t := by rw [number?, number?, h]
  cases kind with
  | flag =>
    change flag? s = flag? t
    rw [flag?, flag?, h]
  | number bound => exact hnumber bound
  | interval => exact congrArg (Option.map _) (hnumber _)
  | threads => exact congrArg (Option.map _) (hnumber _)
  | address =>
    change address? s = address? t
    rw [address?, address?, h]
  | path => exact absurd rfl hkind
  | serialization =>
    change serializationId? s = serializationId? t
    rw [serializationId?, serializationId?, h]

/-- Any text is a path, but the empty one is none. -/
theorem parse_path (s : String) : path.parse s = if s = "" then none else some (some s) := by
  change path? s = _
  simp only [path?, String.isEmpty_iff]

/-- Zero is "never", and any other number is meant as it is. -/
theorem parse_interval {s : String} {n : Nat} (h : (number word64).parse s = some n) :
    interval.parse s = some (if n = 0 then none else some n) := congrArg (Option.map _) h

end SettingKind

theorem le_of_serializationId? {s : String} {id : UInt8} (h : serializationId? s = some id) :
    id ≤ Registry.maxId := by
  rw [serializationId?] at h
  split at h
  · obtain rfl := Option.some.inj h
    decide
  · split at h
    · obtain rfl := Option.some.inj h
      decide
    · simpa using (Option.filter_eq_some_iff.mp h).2

/-! ## Keys -/

/-- A key of the environment. -/
inductive Setting where
  | poolMaxSize
  | poolBlockWhenExhausted
  | poolWaitInFlight
  | poolInFlightWait
  | poolCreateRetries
  | poolRetryDelay
  | poolEagerInit
  | poolMaxLeases
  | poolAcquireTimeout
  | requestTimeout
  | connectTimeout
  | idleInterval
  | maxUnanswered
  | serialization
  | payloadLimit
  | outboundQueue
  | dispatchOffload
  | dispatchWorkers
  | dispatchQueue
  | noDelay
  | keepalive
  | bind
  | unixSocket
  | backlog
  | ioThreads
  | bossThreads
deriving DecidableEq, Repr

namespace Setting

def all : List Setting :=
  [poolMaxSize, poolBlockWhenExhausted, poolWaitInFlight, poolInFlightWait, poolCreateRetries,
    poolRetryDelay, poolEagerInit, poolMaxLeases, poolAcquireTimeout, requestTimeout,
    connectTimeout, idleInterval, maxUnanswered, serialization, payloadLimit, outboundQueue,
    dispatchOffload, dispatchWorkers, dispatchQueue, noDelay, keepalive, bind, unixSocket, backlog,
    ioThreads, bossThreads]

/-- What every key begins with. -/
def family : List Char := "MUXWIRE_".toList

def key : Setting → String
  | poolMaxSize => "MUXWIRE_POOL_MAX_SIZE"
  | poolBlockWhenExhausted => "MUXWIRE_POOL_BLOCK_WHEN_EXHAUSTED"
  | poolWaitInFlight => "MUXWIRE_POOL_WAIT_IN_FLIGHT"
  | poolInFlightWait => "MUXWIRE_POOL_IN_FLIGHT_WAIT_MS"
  | poolCreateRetries => "MUXWIRE_POOL_CREATE_RETRIES"
  | poolRetryDelay => "MUXWIRE_POOL_RETRY_DELAY_MS"
  | poolEagerInit => "MUXWIRE_POOL_EAGER_INIT"
  | poolMaxLeases => "MUXWIRE_POOL_MAX_LEASES"
  | poolAcquireTimeout => "MUXWIRE_POOL_ACQUIRE_TIMEOUT_MS"
  | requestTimeout => "MUXWIRE_REQUEST_TIMEOUT_MS"
  | connectTimeout => "MUXWIRE_CONNECT_TIMEOUT_MS"
  | idleInterval => "MUXWIRE_IDLE_INTERVAL_MS"
  | maxUnanswered => "MUXWIRE_HEARTBEAT_MAX_UNANSWERED"
  | serialization => "MUXWIRE_SERIALIZATION"
  | payloadLimit => "MUXWIRE_PAYLOAD_LIMIT"
  | outboundQueue => "MUXWIRE_OUTBOUND_QUEUE"
  | dispatchOffload => "MUXWIRE_DISPATCH_OFFLOAD"
  | dispatchWorkers => "MUXWIRE_DISPATCH_WORKERS"
  | dispatchQueue => "MUXWIRE_DISPATCH_QUEUE"
  | noDelay => "MUXWIRE_TCP_NODELAY"
  | keepalive => "MUXWIRE_KEEPALIVE_SECS"
  | bind => "MUXWIRE_BIND"
  | unixSocket => "MUXWIRE_UNIX_SOCKET"
  | backlog => "MUXWIRE_BACKLOG"
  | ioThreads => "MUXWIRE_IO_THREADS"
  | bossThreads => "MUXWIRE_BOSS_THREADS"

def kind : Setting → SettingKind
  | poolBlockWhenExhausted | poolWaitInFlight | poolEagerInit | dispatchOffload | noDelay => .flag
  | poolMaxSize | poolInFlightWait | poolRetryDelay | poolMaxLeases | poolAcquireTimeout
  | requestTimeout | connectTimeout | payloadLimit | outboundQueue | dispatchQueue
  | bossThreads => .number word64
  | poolCreateRetries | maxUnanswered | backlog => .number word32
  | idleInterval | keepalive => .interval
  | dispatchWorkers | ioThreads => .threads
  | bind => .address
  | unixSocket => .path
  | serialization => .serialization

abbrev Value (k : Setting) : Type := k.kind.Value

/-- The field that a key sets. -/
def field : (k : Setting) → TransportConfig → k.Value
  | poolMaxSize, c => c.pool.maxSize
  | poolBlockWhenExhausted, c => c.pool.blockWhenExhausted
  | poolWaitInFlight, c => c.pool.waitForInFlight
  | poolInFlightWait, c => c.pool.inFlightWait
  | poolCreateRetries, c => c.pool.maxCreateRetries
  | poolRetryDelay, c => c.pool.retryDelay
  | poolEagerInit, c => c.pool.eagerInit
  | poolMaxLeases, c => c.pool.maxLeases
  | poolAcquireTimeout, c => c.pool.acquireTimeout
  | requestTimeout, c => c.connection.requestTimeout
  | connectTimeout, c => c.connection.connectTimeout
  | idleInterval, c => c.connection.idleInterval
  | maxUnanswered, c => c.connection.maxUnanswered
  | serialization, c => c.connection.serialization
  | payloadLimit, c => c.connection.payloadLimit
  | outboundQueue, c => c.connection.outboundQueue
  | dispatchOffload, c => c.dispatch.offload
  | dispatchWorkers, c => c.dispatch.workers
  | dispatchQueue, c => c.dispatch.queueCapacity
  | noDelay, c => c.options.noDelay
  | keepalive, c => c.options.keepaliveSeconds
  | bind, c => c.server.bind
  | unixSocket, c => c.server.unixPath
  | backlog, c => c.server.backlog
  | ioThreads, c => c.server.ioThreads
  | bossThreads, c => c.server.bossThreads

/-- The configuration that has some fields. -/
def assemble (f : (k : Setting) → k.Value) (reuseAddress : Bool) : TransportConfig where
  pool :=
    { maxSize := f poolMaxSize
      blockWhenExhausted := f poolBlockWhenExhausted
      waitForInFlight := f poolWaitInFlight
      inFlightWait := f poolInFlightWait
      maxCreateRetries := f poolCreateRetries
      retryDelay := f poolRetryDelay
      eagerInit := f poolEagerInit
      maxLeases := f poolMaxLeases
      acquireTimeout := f poolAcquireTimeout }
  connection :=
    { requestTimeout := f requestTimeout
      connectTimeout := f connectTimeout
      idleInterval := f idleInterval
      maxUnanswered := f maxUnanswered
      serialization := f serialization
      payloadLimit := f payloadLimit
      outboundQueue := f outboundQueue }
  dispatch :=
    { offload := f dispatchOffload
      workers := f dispatchWorkers
      queueCapacity := f dispatchQueue }
  options :=
    { noDelay := f noDelay
      keepaliveSeconds := f keepalive
      reuseAddress := reuseAddress }
  server :=
    { bind := f bind
      unixPath := f unixSocket
      backlog := f backlog
      ioThreads := f ioThreads
      bossThreads := f bossThreads }

/-- A configuration with another value in one field. -/
def replace (k : Setting) (v : k.Value) (c : TransportConfig) : TransportConfig :=
  assemble (Function.update (fun l ↦ l.field c) k v) c.options.reuseAddress

variable {k l : Setting}

/-! ## Keys and fields -/

theorem mem_all (k : Setting) : k ∈ all := by
  cases k <;> decide

/-- No two fields have the same key. -/
theorem key_injective : Function.Injective key := by
  have hnodup : (all.map key).Nodup := by decide
  exact fun k l ↦ List.inj_on_of_nodup_map hnodup (mem_all k) (mem_all l)

theorem family_prefix_key (k : Setting) : family <+: k.key.toList := by
  have hall : ∀ l ∈ all, family <+: l.key.toList := by decide
  exact hall k (mem_all k)

@[simp]
theorem field_assemble (f : (k : Setting) → k.Value) (reuseAddress : Bool) (k : Setting) :
    k.field (assemble f reuseAddress) = f k := by
  cases k <;> rfl

/-- There is nothing to a configuration but the fields that have keys, and one that has none. -/
theorem assemble_field (c : TransportConfig) :
    assemble (fun k ↦ k.field c) c.options.reuseAddress = c := rfl

theorem eq_of_field_eq {c d : TransportConfig} (hfield : ∀ k : Setting, k.field c = k.field d)
    (hreuse : c.options.reuseAddress = d.options.reuseAddress) : c = d := by
  rw [← assemble_field c, ← assemble_field d, funext hfield, hreuse]

@[simp]
theorem field_replace (k : Setting) (v : k.Value) (c : TransportConfig) :
    k.field (k.replace v c) = v := by
  rw [replace, field_assemble, Function.update_self]

theorem field_replace_of_ne (h : l ≠ k) (v : k.Value) (c : TransportConfig) :
    l.field (k.replace v c) = l.field c := by
  rw [replace, field_assemble, Function.update_of_ne h]

/-! ## The overlay -/

variable {env env' : Environment}

/-- **Each key is read as its kind says, into its field.** The field without a key keeps its
default. -/
theorem ofEnvironment_eq_assemble (env : Environment) :
    TransportConfig.ofEnvironment env =
      assemble (fun k ↦ env.read k.key k.kind.parse (k.field .standard)) true := rfl

theorem field_ofEnvironment (env : Environment) (k : Setting) :
    k.field (.ofEnvironment env) = env.read k.key k.kind.parse (k.field .standard) := by
  rw [ofEnvironment_eq_assemble, field_assemble]

theorem field_ofEnvironment_congr (h : env k.key = env' k.key) :
    k.field (.ofEnvironment env) = k.field (.ofEnvironment env') := by
  rw [field_ofEnvironment, field_ofEnvironment, Environment.read, Environment.read, h]

theorem field_ofEnvironment_of_none (h : (env k.key).bind k.kind.parse = none) :
    k.field (.ofEnvironment env) = k.field .standard := by
  rw [field_ofEnvironment, Environment.read, h, Option.getD_none]

theorem field_ofEnvironment_of_some {text : String} {v : k.Value} (htext : env k.key = some text)
    (hv : k.kind.parse text = some v) : k.field (.ofEnvironment env) = v := by
  rw [field_ofEnvironment, Environment.read, htext, Option.bind_some, hv, Option.getD_some]

/-- The number of a serialization is one that a registry has room for. -/
theorem serialization_ofEnvironment_le (env : Environment) :
    (TransportConfig.ofEnvironment env).connection.serialization ≤ Registry.maxId := by
  cases h : (env serialization.key).bind serializationId? with
  | none =>
    have hdefault : (TransportConfig.ofEnvironment env).connection.serialization =
        ConnectionConfig.standard.serialization :=
      field_ofEnvironment_of_none (k := .serialization) h
    rw [hdefault]
    decide
  | some id =>
    obtain ⟨text, htext, hid⟩ := Option.bind_eq_some_iff.mp h
    have hread : (TransportConfig.ofEnvironment env).connection.serialization = id :=
      field_ofEnvironment_of_some (k := .serialization) htext hid
    rw [hread]
    exact le_of_serializationId? hid

end Setting

namespace Environment

/-- Two environments differ in one key of the family at the most. -/
def AgreeBut (key : String) (env env' : Environment) : Prop :=
  ∀ other, Setting.family <+: other.toList → other ≠ key → env other = env' other

variable {env env' : Environment} {key : String} {k : Setting}

theorem AgreeBut.field_eq (h : AgreeBut key env env') (hk : k.key ≠ key) :
    k.field (.ofEnvironment env') = k.field (.ofEnvironment env) :=
  Setting.field_ofEnvironment_congr (h k.key k.family_prefix_key hk).symm

theorem AgreeBut.eq_replace (h : AgreeBut k.key env env') :
    TransportConfig.ofEnvironment env' =
      k.replace (k.field (.ofEnvironment env')) (.ofEnvironment env) := by
  refine Setting.eq_of_field_eq (fun l ↦ ?_) rfl
  by_cases hl : l = k
  · subst hl
    rw [Setting.field_replace]
  · rw [Setting.field_replace_of_ne hl]
    exact h.field_eq fun heq ↦ hl (Setting.key_injective heq)

theorem AgreeBut.eq (h : AgreeBut key env env') (hkey : ∀ k : Setting, k.key ≠ key) :
    TransportConfig.ofEnvironment env' = .ofEnvironment env :=
  Setting.eq_of_field_eq (fun k ↦ h.field_eq (hkey k)) rfl

/-- **No key of an environment has a say in the field of another.** The configurations of two
environments that differ in one key differ in the field of this key and in nothing else, and not at
all if it is the key of no field. A field keeps its default if its key is not set or its text is not
one of its kind, and takes what is read from the text otherwise; blanks around the text do not
count. It is only the path of a socket that is taken with its blanks, and any text but the empty one
is a path. Zero switches an interval off, and the number of a serialization is one that a registry
has room for. -/
theorem keys_separate (env : Environment) :
    (∀ key env', AgreeBut key env env' →
      (∀ k : Setting, k.key = key → TransportConfig.ofEnvironment env' =
        k.replace (k.field (.ofEnvironment env')) (.ofEnvironment env)) ∧
      ((∀ k : Setting, k.key ≠ key) →
        TransportConfig.ofEnvironment env' = .ofEnvironment env)) ∧
    (∀ k : Setting, (env k.key).bind k.kind.parse = none →
      k.field (.ofEnvironment env) = k.field .standard) ∧
    (∀ (k : Setting) (text : String) (v : k.Value), env k.key = some text →
      k.kind.parse text = some v → k.field (.ofEnvironment env) = v) ∧
    (∀ kind, kind ≠ SettingKind.path → ∀ s t : String,
      trimBlank s.toList = trimBlank t.toList → kind.parse s = kind.parse t) ∧
    (∀ s : String, SettingKind.path.parse s = if s = "" then none else some (some s)) ∧
    (∀ (s : String) (n : Nat), (SettingKind.number word64).parse s = some n →
      SettingKind.interval.parse s = some (if n = 0 then none else some n)) ∧
    (TransportConfig.ofEnvironment env).connection.serialization ≤ 31 := by
  refine ⟨fun key env' h ↦ ⟨?_, h.eq⟩, fun k ↦ Setting.field_ofEnvironment_of_none,
    fun k text v ↦ Setting.field_ofEnvironment_of_some,
    fun kind hkind s t ↦ SettingKind.parse_eq_of_trimBlank_eq hkind,
    SettingKind.parse_path, fun s n ↦ SettingKind.parse_interval,
    Setting.serialization_ofEnvironment_le env⟩
  rintro k rfl
  exact h.eq_replace

/-- One key is set. -/
def single (key text : String) : Environment := fun other ↦ if other = key then some text else none

@[simp]
theorem single_self (key text : String) : single key text key = some text := if_pos rfl

theorem agreeBut_single (key s t : String) : AgreeBut key (single key s) (single key t) := by
  intro other _ hne
  rw [single, single, if_neg hne, if_neg hne]

/-- An idle interval of zero milliseconds, and one of 250. -/
theorem keys_separate_idle_interval :
    ∃ env env', AgreeBut "MUXWIRE_IDLE_INTERVAL_MS" env env' ∧
      env "MUXWIRE_IDLE_INTERVAL_MS" = some " 0 " ∧ env' "MUXWIRE_IDLE_INTERVAL_MS" = some "+250" ∧
      (TransportConfig.ofEnvironment env).connection.idleInterval = none ∧
      TransportConfig.ofEnvironment env' =
        Setting.idleInterval.replace (some 250) (.ofEnvironment env) := by
  have hagree := agreeBut_single "MUXWIRE_IDLE_INTERVAL_MS" " 0 " "+250"
  have hnever : interval? " 0 " = some none := by decide
  have hread : interval? "+250" = some (some 250) := by decide
  obtain ⟨hseparate, -, htaken, -⟩ := keys_separate (single "MUXWIRE_IDLE_INTERVAL_MS" " 0 ")
  obtain ⟨-, -, htaken', -⟩ := keys_separate (single "MUXWIRE_IDLE_INTERVAL_MS" "+250")
  refine ⟨_, _, hagree, single_self _ _, single_self _ _,
    htaken .idleInterval _ _ (single_self _ _) hnever, ?_⟩
  rw [← htaken' .idleInterval _ _ (single_self _ _) hread]
  exact (hseparate _ _ hagree).1 .idleInterval rfl

/-- A blank is the path of a socket and the empty text is not, though trimmed they are one text. So
the path is not what anything reads from the trimmed text. -/
theorem unixSocket_untrimmed :
    (TransportConfig.ofEnvironment (single "MUXWIRE_UNIX_SOCKET" " ")).server.unixPath = some " " ∧
    (TransportConfig.ofEnvironment (single "MUXWIRE_UNIX_SOCKET" "")).server.unixPath = none ∧
    trimBlank " ".toList = trimBlank "".toList ∧
    ¬ ∃ read : List Char → Option (Option String), ∀ env : Environment,
      (TransportConfig.ofEnvironment env).server.unixPath =
        ((env "MUXWIRE_UNIX_SOCKET").bind fun s ↦ read (trimBlank s.toList)).getD none := by
  have hblank : (TransportConfig.ofEnvironment
      (single "MUXWIRE_UNIX_SOCKET" " ")).server.unixPath = some " " := by decide
  have hempty : (TransportConfig.ofEnvironment
      (single "MUXWIRE_UNIX_SOCKET" "")).server.unixPath = none := by decide
  have htrim : trimBlank " ".toList = trimBlank "".toList := by decide
  refine ⟨hblank, hempty, htrim, ?_⟩
  rintro ⟨read, hread⟩
  have hread₁ := hread (single "MUXWIRE_UNIX_SOCKET" " ")
  have hread₂ := hread (single "MUXWIRE_UNIX_SOCKET" "")
  rw [single_self, Option.bind_some, hblank, htrim] at hread₁
  rw [single_self, Option.bind_some, hempty] at hread₂
  exact nomatch hread₁.trans hread₂.symm

end Environment

end RpcTransport
