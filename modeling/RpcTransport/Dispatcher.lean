import RpcTransport.Completion
import RpcTransport.Config
import RpcTransport.Semaphore

/-!
# Decoding responses

A response is decoded by a worker, if there are workers and their queue has room, and otherwise
where it arrived. A caller who waits for a raw response gets it at once. Each of the three ends in
one delivery.

A worker takes the oldest job of the queue and is busy until it has finished it.
-/

namespace RpcTransport

structure DecodeJob where
  completion : Completion
  frame : Frame
deriving DecidableEq, Repr

structure Dispatcher where
  registry : Registry
  /-- None if decoding is not to be offloaded. -/
  workers : Nat
  capacity : Nat
  queue : List DecodeJob
  /-- What the busy workers are at. -/
  running : List DecodeJob
  offloaded : Nat
  inlined : Nat
deriving DecidableEq, Repr

namespace Dispatcher

/-- The workers of a configuration, `processors` being how many there are by themselves. -/
def ofConfig (registry : Registry) (processors : Nat) (c : DispatchConfig) : Dispatcher where
  registry := registry
  workers := if c.offload then c.workers.getD processors else 0
  capacity := max c.queueCapacity 1
  queue := []
  running := []
  offloaded := 0
  inlined := 0

/-- The workers of a configuration with their queue, if it is one that can be made. Where there are
no workers there is no queue. -/
def open? (registry : Registry) (processors : Nat) (c : DispatchConfig) : Option Dispatcher :=
  let d := ofConfig registry processors c
  if d.workers = 0 then some d
  else (Semaphore.places? d.capacity).map fun places ↦ { d with capacity := places }

def decode (d : Dispatcher) (job : DecodeJob) : Delivery :=
  job.completion.decode d.registry job.frame

/-- Take in a response: deliver it now, or leave it to the workers. -/
def submit (d : Dispatcher) (c : Completion) (f : Frame) : Option Delivery × Dispatcher :=
  match c.kind with
  | .raw => (some (c.handOver f), d)
  | _ =>
    let job : DecodeJob := ⟨c, f⟩
    if d.workers ≠ 0 ∧ d.queue.length < d.capacity then
      (none, { d with queue := d.queue ++ [job], offloaded := d.offloaded + 1 })
    else (some (d.decode job), { d with inlined := d.inlined + 1 })

/-- A free worker takes the oldest job. -/
def take (d : Dispatcher) : Option Dispatcher :=
  match d.queue with
  | [] => none
  | job :: jobs =>
    if d.running.length < d.workers then
      some { d with queue := jobs, running := d.running ++ [job] }
    else none

/-- The first busy worker whose job is not held up finishes it. -/
def finish (held : DecodeJob → Bool) (d : Dispatcher) : Option (DecodeJob × Dispatcher) :=
  match d.running.span held with
  | (_, []) => none
  | (before, job :: after) => some (job, { d with running := before ++ after })

/-- Let the workers go on until none can. The fuel is twice the number of jobs. -/
def workFor (held : DecodeJob → Bool) : (fuel : Nat) → Dispatcher → List DecodeJob × Dispatcher
  | 0, d => ([], d)
  | fuel + 1, d =>
    match d.finish held with
    | some (job, d) =>
      let (jobs, d) := workFor held fuel d
      (job :: jobs, d)
    | none =>
      match d.take with
      | some d => workFor held fuel d
      | none => ([], d)

/-- The jobs that get done while those that are held up stay with their workers. -/
def work (held : DecodeJob → Bool) (d : Dispatcher) : List DecodeJob × Dispatcher :=
  workFor held (2 * (d.queue.length + d.running.length)) d

def debugText (d : Dispatcher) : String :=
  let offload := decide (d.workers ≠ 0)
  s!"Dispatcher \x7b workers: {d.workers}, offload: {offload}, stats: DispatchStats \x7b " ++
    s!"offloaded: {d.offloaded}, inline: {d.inlined} \x7d \x7d"

end Dispatcher

end RpcTransport
