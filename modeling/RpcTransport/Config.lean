import RpcTransport.Serialization.Registry
import RpcTransport.SocketAddress
import RpcTransport.Frame.Codec
import RpcTransport.Text.Blank
import RpcTransport.Text.Numeral

/-!
# Settings

A configuration is the defaults, overlaid with the settings of an environment. Each field has one
key; a key that is not set, or whose trimmed text does not parse, leaves the default. Durations are
milliseconds, and zero switches the idle interval and the keepalive off.
-/

namespace RpcTransport

structure PoolConfig where
  maxSize : Nat
  /-- Wait for a connection to come free when there is none. -/
  blockWhenExhausted : Bool
  /-- On a last attempt, wait for a connection that is being made. -/
  waitForInFlight : Bool
  inFlightWait : Nat
  maxCreateRetries : Nat
  retryDelay : Nat
  /-- Make one connection at once. -/
  eagerInit : Bool
  maxLeases : Nat
  acquireTimeout : Nat
deriving DecidableEq, Repr

structure ConnectionConfig where
  requestTimeout : Nat
  connectTimeout : Nat
  /-- After so long without a frame a heartbeat is due; never if `none`. -/
  idleInterval : Option Nat
  maxUnanswered : Nat
  serialization : UInt8
  payloadLimit : Nat
  outboundQueue : Nat
deriving DecidableEq, Repr

structure DispatchConfig where
  offload : Bool
  /-- How many workers; as many as there are processors if `none`. -/
  workers : Option Nat
  queueCapacity : Nat
deriving DecidableEq, Repr

structure TransportOptions where
  noDelay : Bool
  keepaliveSeconds : Option Nat
  reuseAddress : Bool
deriving DecidableEq, Repr

structure ServerConfig where
  bind : SocketAddress
  unixPath : Option String
  backlog : Nat
  /-- How many threads; as many as there are processors if `none`. -/
  ioThreads : Option Nat
  bossThreads : Nat
deriving DecidableEq, Repr

structure TransportConfig where
  pool : PoolConfig
  connection : ConnectionConfig
  dispatch : DispatchConfig
  options : TransportOptions
  server : ServerConfig
deriving DecidableEq, Repr

/-! ## Defaults -/

def PoolConfig.standard : PoolConfig := ⟨8, true, true, 1000, 2, 100, false, 64, 3000⟩

def ConnectionConfig.standard : ConnectionConfig :=
  ⟨3000, 3000, some 60000, 2, Backend.messagePack.id, Frame.defaultLimit, 1024⟩

def DispatchConfig.standard : DispatchConfig := ⟨true, none, 1024⟩

def TransportOptions.standard : TransportOptions := ⟨true, some 60, true⟩

def ServerConfig.standard : ServerConfig := ⟨.v4 [0, 0, 0, 0] 20880, none, 1024, none, 1⟩

def TransportConfig.standard : TransportConfig where
  pool := .standard
  connection := .standard
  dispatch := .standard
  options := .standard
  server := .standard

/-! ## Texts of settings -/

/-- The low ASCII letters. -/
def lowered (cs : List Char) : List Char := cs.map Char.toLower

def flag? (s : String) : Option Bool :=
  let word := String.ofList (lowered (trimBlank s.toList))
  if word = "1" ∨ word = "true" ∨ word = "yes" ∨ word = "on" then some true
  else if word = "0" ∨ word = "false" ∨ word = "no" ∨ word = "off" then some false
  else none

def number? (bound : Nat) (s : String) : Option Nat := Numeral.value? bound (trimBlank s.toList)

/-- Zero means "never". -/
def interval? (s : String) : Option (Option Nat) :=
  (number? (0x10000000000000000 - 1) s).map fun n ↦ if n = 0 then none else some n

/-- A number of threads of one's own choice. -/
def threads? (s : String) : Option (Option Nat) := (number? (0x10000000000000000 - 1) s).map some

def address? (s : String) : Option SocketAddress := SocketAddress.parse? (trimBlank s.toList)

/-- The path of a socket, taken as it is. -/
def path? (s : String) : Option (Option String) := if s.isEmpty then none else some (some s)

/-- The id of a backend by its name or its number. -/
def serializationId? (s : String) : Option UInt8 :=
  let word := lowered (trimBlank s.toList)
  if word = "json".toList then some Backend.json.id
  else if word = "msgpack".toList ∨ word = "messagepack".toList then some Backend.messagePack.id
  else ((Numeral.value? 255 word).map UInt8.ofNat).filter (· ≤ Registry.maxId)

/-! ## Overlay -/

/-- The texts of the keys that are set. -/
abbrev Environment := String → Option String

/-- The setting of a key, or the default. -/
def Environment.read {α : Type} (env : Environment) (key : String) (parse : String → Option α)
    (default : α) : α :=
  ((env key).bind parse).getD default

def word64 : Nat := 0x10000000000000000 - 1

def word32 : Nat := 0x100000000 - 1

def PoolConfig.ofEnvironment (env : Environment) : PoolConfig where
  maxSize := env.read "MUXWIRE_POOL_MAX_SIZE" (number? word64) standard.maxSize
  blockWhenExhausted :=
    env.read "MUXWIRE_POOL_BLOCK_WHEN_EXHAUSTED" flag? standard.blockWhenExhausted
  waitForInFlight := env.read "MUXWIRE_POOL_WAIT_IN_FLIGHT" flag? standard.waitForInFlight
  inFlightWait := env.read "MUXWIRE_POOL_IN_FLIGHT_WAIT_MS" (number? word64) standard.inFlightWait
  maxCreateRetries :=
    env.read "MUXWIRE_POOL_CREATE_RETRIES" (number? word32) standard.maxCreateRetries
  retryDelay := env.read "MUXWIRE_POOL_RETRY_DELAY_MS" (number? word64) standard.retryDelay
  eagerInit := env.read "MUXWIRE_POOL_EAGER_INIT" flag? standard.eagerInit
  maxLeases := env.read "MUXWIRE_POOL_MAX_LEASES" (number? word64) standard.maxLeases
  acquireTimeout :=
    env.read "MUXWIRE_POOL_ACQUIRE_TIMEOUT_MS" (number? word64) standard.acquireTimeout

def ConnectionConfig.ofEnvironment (env : Environment) : ConnectionConfig where
  requestTimeout := env.read "MUXWIRE_REQUEST_TIMEOUT_MS" (number? word64) standard.requestTimeout
  connectTimeout := env.read "MUXWIRE_CONNECT_TIMEOUT_MS" (number? word64) standard.connectTimeout
  idleInterval := env.read "MUXWIRE_IDLE_INTERVAL_MS" interval? standard.idleInterval
  maxUnanswered :=
    env.read "MUXWIRE_HEARTBEAT_MAX_UNANSWERED" (number? word32) standard.maxUnanswered
  serialization := env.read "MUXWIRE_SERIALIZATION" serializationId? standard.serialization
  payloadLimit := env.read "MUXWIRE_PAYLOAD_LIMIT" (number? word64) standard.payloadLimit
  outboundQueue := env.read "MUXWIRE_OUTBOUND_QUEUE" (number? word64) standard.outboundQueue

def DispatchConfig.ofEnvironment (env : Environment) : DispatchConfig where
  offload := env.read "MUXWIRE_DISPATCH_OFFLOAD" flag? standard.offload
  workers := env.read "MUXWIRE_DISPATCH_WORKERS" threads? standard.workers
  queueCapacity := env.read "MUXWIRE_DISPATCH_QUEUE" (number? word64) standard.queueCapacity

def TransportOptions.ofEnvironment (env : Environment) : TransportOptions where
  noDelay := env.read "MUXWIRE_TCP_NODELAY" flag? standard.noDelay
  keepaliveSeconds := env.read "MUXWIRE_KEEPALIVE_SECS" interval? standard.keepaliveSeconds
  reuseAddress := standard.reuseAddress

def ServerConfig.ofEnvironment (env : Environment) : ServerConfig where
  bind := env.read "MUXWIRE_BIND" address? standard.bind
  unixPath := env.read "MUXWIRE_UNIX_SOCKET" path? standard.unixPath
  backlog := env.read "MUXWIRE_BACKLOG" (number? word32) standard.backlog
  ioThreads := env.read "MUXWIRE_IO_THREADS" threads? standard.ioThreads
  bossThreads := env.read "MUXWIRE_BOSS_THREADS" (number? word64) standard.bossThreads

def TransportConfig.ofEnvironment (env : Environment) : TransportConfig where
  pool := .ofEnvironment env
  connection := .ofEnvironment env
  dispatch := .ofEnvironment env
  options := .ofEnvironment env
  server := .ofEnvironment env

end RpcTransport
