import RpcTransport.Proofs.Connection.Outcomes

/-!
# Threads at a dispatcher

Any number of threads submit responses while the workers take jobs and finish them. A thread goes
through a submission in small steps, and so does a worker through a job: the offer to the queue, the
count, the decoding, which ends the use of the body, and the word to the caller. Between any two of
them others may move.

Two things pass from hand to hand here. A completion is with the thread that submits it, with the
workers or used up, and it is known from the start what the caller will be told (`Moves.outcomes`,
`Works.outcomes`). A body is with a thread, with the workers, with the caller of a raw response, or
its use has ended (`Moves.passes`, `Works.passes`).
-/

namespace RpcTransport

namespace Dispatcher

/-! ## The queue and the workers -/

/-- A worker takes the oldest job. -/
theorem take_cases {d d' : Dispatcher} (h : d.take = some d') :
    ∃ job jobs, d.queue = job :: jobs ∧
      d' = { d with queue := jobs, running := d.running ++ [job] } := by
  rw [take] at h
  split at h
  · cases h
  · next job jobs hqueue =>
    split at h
    · exact ⟨job, jobs, hqueue, (Option.some.inj h).symm⟩
    · cases h

/-- A worker is done with one of the jobs that run. -/
theorem finish_cases {held : DecodeJob → Bool} {d d' : Dispatcher} {job : DecodeJob}
    (h : d.finish held = some (job, d')) :
    ∃ before after, d.running = before ++ job :: after ∧
      d' = { d with running := before ++ after } := by
  rw [finish, List.span_eq_takeWhile_dropWhile] at h
  have hrunning := List.takeWhile_append_dropWhile (p := held) (l := d.running)
  generalize d.running.takeWhile held = before at h hrunning
  generalize d.running.dropWhile held = rest at h hrunning
  cases rest with
  | nil => cases h
  | cons first after =>
    obtain ⟨rfl, rfl⟩ := Prod.mk.inj (Option.some.inj h)
    exact ⟨before, after, hrunning.symm, rfl⟩

/-- What the caller of a job is told, by whoever decodes its response or hands it over. -/
def answer (registry : Registry) (job : DecodeJob) : Delivery :=
  ⟨job.completion.ticket, job.completion.kind.answer registry job.frame⟩

theorem decode_eq_answer {job : DecodeJob} (h : job.completion.kind ≠ .raw)
    (registry : Registry) : job.completion.decode registry job.frame = answer registry job :=
  Completion.decode_eq h registry job.frame

theorem handOver_eq_answer {job : DecodeJob} (h : job.completion.kind = .raw)
    (registry : Registry) : job.completion.handOver job.frame = answer registry job := by
  rw [answer, h]
  rfl

/-- A body with the ticket of its request. -/
abbrev Parcel := Nat × Body

def parcel (job : DecodeJob) : Parcel := (job.completion.ticket, job.frame.body)

/-- The body of a raw response that the caller of a ticket has. -/
def heldParcel (x : Nat × RawResponse) : Parcel := (x.1, x.2.body)

/-! ## Threads -/

/-- What a thread that submits a response does next. -/
inductive Task where
  | submit (job : DecodeJob)
  /-- The workers have the job, which is to be counted. -/
  | count
  /-- The workers do not have the job, which is to be counted too. -/
  | refused (job : DecodeJob)
  | decode (job : DecodeJob)
  | tell (d : Delivery)
  /-- Nobody took the raw response, so its body is done with. -/
  | discard (p : Parcel)
  | ended

namespace Task

/-- What callers will be told by a thread. -/
def outcomes (registry : Registry) : Task → List Delivery
  | submit job => [answer registry job]
  | refused job | decode job => [job.completion.decode registry job.frame]
  | tell d => [d]
  | count | discard _ | ended => []

/-- The bodies in the hands of a thread. -/
def parcels : Task → List Parcel
  | submit job | refused job | decode job => [parcel job]
  | discard p => [p]
  | count | tell _ | ended => []

/-- Whether a job is yet to be counted. -/
def uncounted : Task → Nat
  | submit job => if job.completion.kind = .raw then 0 else 1
  | count | refused _ => 1
  | decode _ | tell _ | discard _ | ended => 0

/-- More than the steps that are left, those of a worker with the job included. -/
def cost : Task → Nat
  | submit _ => 5
  | refused _ => 3
  | decode _ => 2
  | count | tell _ | discard _ => 1
  | ended => 0

end Task

/-! ## What threads and workers share -/

structure State where
  dispatcher : Dispatcher
  arena : Arena
  /-- What workers that have decoded a response are to tell. -/
  telling : List Delivery
  told : List Delivery
  /-- The raw responses that callers have. -/
  held : List (Nat × RawResponse)
  /-- The callers that do not wait any more. -/
  gone : List Nat
  /-- The bodies whose use has ended. -/
  released : List Parcel
  dropped : Bool
  /-- How many workers have left. -/
  exited : Nat

namespace State

/-- The end of a body's use. -/
def release (s : State) (p : Parcel) : State :=
  { s with arena := s.arena.release p.2, released := s.released ++ [p] }

/-- The channel takes a job: there is one, somebody still receives from it, and it has room. -/
def Accepts (s : State) : Prop :=
  s.exited < s.dispatcher.workers ∧ s.dispatcher.queue.length < s.dispatcher.capacity

instance (s : State) : Decidable s.Accepts := inferInstanceAs (Decidable (_ ∧ _))

/-- A worker is neither at a job nor gone. -/
def Idle (s : State) : Prop :=
  s.dispatcher.running.length + s.telling.length + s.exited < s.dispatcher.workers

instance (s : State) : Decidable s.Idle := inferInstanceAs (Decidable (_ < _))

/-- What callers were told, and what the workers will tell them. -/
def outcomes (s : State) : List Delivery := s.told ++ s.telling ++ s.dispatcher.outcomes

/-- The bodies with the workers and with callers. -/
def parcels (s : State) : List Parcel :=
  (s.dispatcher.queue ++ s.dispatcher.running).map parcel ++ s.held.map heldParcel

def counted (s : State) : Nat := s.dispatcher.offloaded + s.dispatcher.inlined

/-- More than the steps that are left to the workers. -/
def cost (s : State) : Nat :=
  3 * s.dispatcher.queue.length + 2 * s.dispatcher.running.length + s.telling.length +
    (s.dispatcher.workers - s.exited)

end State

variable {k k' : Task} {s s' : State}

/-- One step of a thread: the thread and what is shared, both before and afterwards. -/
inductive Moves : Task → State → Task → State → Prop where
  | handOver (job : DecodeJob) (s : State) (hraw : job.completion.kind = .raw)
      (hwaits : job.completion.ticket ∉ s.gone) :
      Moves (.submit job) s .ended
        { s with
          told := s.told ++ [job.completion.handOver job.frame]
          held := s.held ++ [(job.completion.ticket, .ofFrame job.frame)] }
  /-- The completion is used up all the same. -/
  | handBack (job : DecodeJob) (s : State) (hraw : job.completion.kind = .raw)
      (hgone : job.completion.ticket ∈ s.gone) :
      Moves (.submit job) s (.discard (parcel job))
        { s with told := s.told ++ [job.completion.handOver job.frame] }
  | discard (p : Parcel) (s : State) : Moves (.discard p) s .ended (s.release p)
  | offer (job : DecodeJob) (s : State) (hraw : job.completion.kind ≠ .raw) (h : s.Accepts) :
      Moves (.submit job) s .count
        { s with dispatcher := { s.dispatcher with queue := s.dispatcher.queue ++ [job] } }
  | refuse (job : DecodeJob) (s : State) (hraw : job.completion.kind ≠ .raw) (h : ¬ s.Accepts) :
      Moves (.submit job) s (.refused job) s
  | count (s : State) :
      Moves .count s .ended
        { s with dispatcher := { s.dispatcher with offloaded := s.dispatcher.offloaded + 1 } }
  | countRefused (job : DecodeJob) (s : State) :
      Moves (.refused job) s (.decode job)
        { s with dispatcher := { s.dispatcher with inlined := s.dispatcher.inlined + 1 } }
  | decode (job : DecodeJob) (s : State) :
      Moves (.decode job) s (.tell (s.dispatcher.decode job)) (s.release (parcel job))
  | tell (d : Delivery) (s : State) :
      Moves (.tell d) s .ended { s with told := s.told ++ [d] }

/-- One step of a worker. It leaves once the dispatcher was dropped and the queue is empty. -/
inductive Works : State → State → Prop where
  | take (s : State) {d : Dispatcher} (h : s.dispatcher.take = some d) (hidle : s.Idle) :
      Works s { s with dispatcher := d }
  | decode (s : State) (held : DecodeJob → Bool) {job : DecodeJob} {d : Dispatcher}
      (h : s.dispatcher.finish held = some (job, d)) :
      Works s ({ s with
        dispatcher := d, telling := s.telling ++ [d.decode job] }.release (parcel job))
  | tell (s : State) (before : List Delivery) (d : Delivery) (after : List Delivery)
      (h : s.telling = before ++ d :: after) :
      Works s { s with telling := before ++ after, told := s.told ++ [d] }
  | exit (s : State) (hdropped : s.dropped = true) (hqueue : s.dispatcher.queue = [])
      (hidle : s.Idle) : Works s { s with exited := s.exited + 1 }

/-! ## What callers are told -/

/-- What a dispatcher is made with. -/
def setting (d : Dispatcher) : Registry × Nat × Nat := (d.registry, d.workers, d.capacity)

theorem Moves.setting_eq (h : Moves k s k' s') :
    s'.dispatcher.setting = s.dispatcher.setting := by
  cases h with
  | handOver | handBack | discard | offer | refuse | count | countRefused | decode | tell => rfl

theorem Works.setting_eq (h : Works s s') : s'.dispatcher.setting = s.dispatcher.setting := by
  cases h with
  | take h =>
    obtain ⟨_, _, -, rfl⟩ := take_cases h
    rfl
  | decode _ h =>
    obtain ⟨_, _, -, rfl⟩ := finish_cases h
    rfl
  | tell | exit => rfl

theorem Moves.dropped_eq (h : Moves k s k' s') : s'.dropped = s.dropped := by
  cases h with
  | handOver | handBack | discard | offer | refuse | count | countRefused | decode | tell => rfl

theorem Works.dropped_eq (h : Works s s') : s'.dropped = s.dropped := by
  cases h with
  | take | decode | tell | exit => rfl

/-- A last one goes to the front. -/
theorem perm_cons_of_append_singleton {α : Type} (l₁ l₂ : List α) (x : α) :
    (l₁ ++ [x] ++ l₂).Perm (x :: (l₁ ++ l₂)) := by
  rw [List.append_assoc]
  exact List.perm_middle

/-- **A thread tells what it was to tell**, or leaves it to the workers. -/
theorem Moves.outcomes (h : Moves k s k' s') :
    (k'.outcomes s.dispatcher.registry ++ s'.outcomes).Perm
      (k.outcomes s.dispatcher.registry ++ s.outcomes) := by
  have htold (d : Delivery) : (State.outcomes { s with told := s.told ++ [d] }).Perm
      (d :: s.outcomes) := by
    rw [State.outcomes, State.outcomes, List.append_assoc _ s.telling,
      List.append_assoc _ s.telling]
    exact perm_cons_of_append_singleton _ _ _
  cases h with
  | handOver job _ hraw | handBack job _ hraw =>
    rw [handOver_eq_answer hraw s.dispatcher.registry]
    exact htold _
  | tell d => exact htold d
  | offer job _ hraw =>
    have hqueue : ((s.dispatcher.queue ++ [job] ++ s.dispatcher.running).map
        s.dispatcher.decode).Perm (answer s.dispatcher.registry job :: s.dispatcher.outcomes) := by
      rw [← decode_eq_answer hraw]
      exact (perm_cons_of_append_singleton _ _ _).map s.dispatcher.decode
    exact (hqueue.append_left (s.told ++ s.telling)).trans List.perm_middle
  | refuse job _ hraw =>
    rw [Task.outcomes, Task.outcomes, decode_eq_answer hraw]
  | discard | count | countRefused | decode => exact .refl _

theorem Works.outcomes (h : Works s s') : s'.outcomes.Perm s.outcomes := by
  cases h with
  | take h => exact (outcomes_take h).append_left _
  | @decode held job d h =>
    obtain ⟨hregistry, hperm⟩ := outcomes_finish h
    have hjob : d.decode job = s.dispatcher.decode job := by
      rw [Dispatcher.decode, Dispatcher.decode, hregistry]
    change (s.told ++ (s.telling ++ [d.decode job]) ++ d.outcomes).Perm _
    rw [hjob, ← List.append_assoc, List.append_assoc _ [_]]
    exact hperm.append_left _
  | tell before d after h =>
    have htold : (s.told ++ [d] ++ (before ++ after)).Perm (s.told ++ s.telling) := by
      rw [h, List.append_assoc, List.singleton_append]
      exact List.perm_middle.symm.append_left _
    exact htold.append_right _
  | exit => exact .refl _

/-! ## Where bodies are -/

/-- What a step does with the bodies that are in use: it passes them on, or ends the use of one. -/
inductive Passes (s s' : State) (parcels parcels' : List Parcel) : Prop where
  | on (harena : s'.arena = s.arena) (hreleased : s'.released = s.released)
      (hperm : parcels'.Perm parcels)
  | off (p : Parcel) (harena : s'.arena = s.arena.release p.2)
      (hreleased : s'.released = s.released ++ [p]) (hperm : (p :: parcels').Perm parcels)

theorem Moves.passes (h : Moves k s k' s') :
    Passes s s' (k.parcels ++ s.parcels) (k'.parcels ++ s'.parcels) := by
  cases h with
  | handOver job =>
    have hheld : ((s.held ++ [(job.completion.ticket, RawResponse.ofFrame job.frame)]).map
        heldParcel).Perm
        (parcel job :: s.held.map heldParcel) :=
      (List.perm_append_singleton _ _).map heldParcel
    exact .on rfl rfl ((hheld.append_left _).trans List.perm_middle)
  | offer job =>
    refine .on rfl rfl ?_
    have hqueue : ((s.dispatcher.queue ++ [job] ++ s.dispatcher.running).map parcel).Perm
        (parcel job :: (s.dispatcher.queue ++ s.dispatcher.running).map parcel) :=
      (perm_cons_of_append_singleton _ _ _).map parcel
    exact hqueue.append_right _
  | discard p => exact .off p rfl rfl (.refl _)
  | decode job => exact .off (parcel job) rfl rfl (.refl _)
  | handBack | refuse | count | countRefused | tell => exact .on rfl rfl (.refl _)

theorem Works.passes (h : Works s s') : Passes s s' s.parcels s'.parcels := by
  cases h with
  | take h =>
    obtain ⟨job, jobs, hqueue, rfl⟩ := take_cases h
    have hperm : (jobs ++ (s.dispatcher.running ++ [job])).Perm
        (s.dispatcher.queue ++ s.dispatcher.running) := by
      rw [hqueue, ← List.append_assoc]
      exact List.perm_append_singleton job _
    exact .on rfl rfl ((hperm.map parcel).append_right _)
  | @decode held job d h =>
    obtain ⟨before, after, hrunning, rfl⟩ := finish_cases h
    have hperm : (job :: (s.dispatcher.queue ++ (before ++ after))).Perm
        (s.dispatcher.queue ++ s.dispatcher.running) := by
      rw [hrunning, ← List.append_assoc, ← List.append_assoc]
      exact List.perm_middle.symm
    exact .off (parcel job) rfl rfl ((hperm.map parcel).append_right _)
  | tell | exit => exact .on rfl rfl (.refl _)

/-! ## Counting -/

theorem Moves.counted (h : Moves k s k' s') :
    s'.counted + k'.uncounted = s.counted + k.uncounted := by
  cases h with
  | handOver job _ hraw | handBack job _ hraw => simp [State.counted, Task.uncounted, hraw]
  | offer job _ hraw | refuse job _ hraw => simp [State.counted, Task.uncounted, hraw]
  | count | countRefused =>
    simp only [State.counted, Task.uncounted]
    omega
  | discard | decode | tell => rfl

theorem Works.counted (h : Works s s') : s'.counted = s.counted := by
  cases h with
  | take h =>
    obtain ⟨_, _, -, rfl⟩ := take_cases h
    rfl
  | decode _ h =>
    obtain ⟨_, _, -, rfl⟩ := finish_cases h
    rfl
  | tell | exit => rfl

/-! ## What holds of the shared state -/

/-- The queue keeps its bound, no more workers are busy than there are, none leaves before the end,
and what a caller has it was told. -/
structure Sound (s : State) : Prop where
  queue_le : s.dispatcher.queue.length ≤ s.dispatcher.capacity
  workers_pos : s.dispatcher.queue ≠ [] → 0 < s.dispatcher.workers
  busy_le : s.dispatcher.running.length + s.telling.length + s.exited ≤ s.dispatcher.workers
  exited_pos : 0 < s.exited → s.dropped = true ∧ s.dispatcher.queue = []
  mem_told : ∀ x ∈ s.held, (⟨x.1, .raw x.2⟩ : Delivery) ∈ s.told

theorem Sound.exited_eq_zero (hs : Sound s) (h : s.dropped = false) : s.exited = 0 := by
  refine Nat.eq_zero_of_not_pos fun hpos ↦ ?_
  rw [(hs.exited_pos hpos).1] at h
  exact nomatch h

theorem Moves.sound (h : Moves k s k' s') (hs : Sound s) (hdropped : s.dropped = false) :
    Sound s' := by
  have hexited := hs.exited_eq_zero hdropped
  have htold (d : Delivery) : Sound { s with told := s.told ++ [d] } :=
    ⟨hs.queue_le, hs.workers_pos, hs.busy_le, hs.exited_pos,
      fun x hx ↦ List.mem_append_left _ (hs.mem_told x hx)⟩
  cases h with
  | handBack | tell => exact htold _
  | handOver =>
    refine ⟨hs.queue_le, hs.workers_pos, hs.busy_le, hs.exited_pos, fun x hx ↦ ?_⟩
    rcases List.mem_append.mp hx with hx | hx
    · exact List.mem_append_left _ (hs.mem_told x hx)
    · obtain rfl := List.mem_singleton.mp hx
      exact List.mem_append_right _ List.mem_cons_self
  | offer _ _ _ h =>
    refine ⟨?_, fun _ ↦ Nat.zero_lt_of_lt h.1, hs.busy_le, ?_, hs.mem_told⟩
    · rw [List.length_append]
      exact h.2
    · exact fun hpos ↦ absurd hexited (Nat.ne_of_gt hpos)
  | discard | decode | count | countRefused =>
    exact ⟨hs.queue_le, hs.workers_pos, hs.busy_le, hs.exited_pos, hs.mem_told⟩
  | refuse => exact hs

theorem Works.sound (h : Works s s') (hs : Sound s) : Sound s' := by
  cases h with
  | take h hidle =>
    obtain ⟨job, jobs, hqueue, rfl⟩ := take_cases h
    have hle := hs.queue_le
    rw [hqueue, List.length_cons] at hle
    refine ⟨Nat.le_of_succ_le hle, fun _ ↦ hs.workers_pos (by simp [hqueue]), ?_, ?_, hs.mem_told⟩
    · rw [State.Idle] at hidle
      simp only [List.length_append, List.length_singleton]
      omega
    -- Somebody who has left saw the queue empty.
    · exact fun hpos ↦ absurd (hqueue.symm.trans (hs.exited_pos hpos).2) (List.cons_ne_nil _ _)
  | decode _ h =>
    obtain ⟨before, after, hrunning, rfl⟩ := finish_cases h
    have hle := hs.busy_le
    rw [hrunning, List.length_append, List.length_cons] at hle
    refine ⟨hs.queue_le, hs.workers_pos, ?_, hs.exited_pos, hs.mem_told⟩
    simp only [State.release, List.length_append, List.length_singleton]
    omega
  | tell before d after h =>
    have hle := hs.busy_le
    rw [h, List.length_append, List.length_cons] at hle
    refine ⟨hs.queue_le, hs.workers_pos, ?_, hs.exited_pos,
      fun x hx ↦ List.mem_append_left _ (hs.mem_told x hx)⟩
    simp only [List.length_append]
    omega
  | exit hdropped hqueue hidle =>
    rw [State.Idle] at hidle
    exact ⟨hs.queue_le, hs.workers_pos, hidle, fun _ ↦ ⟨hdropped, hqueue⟩, hs.mem_told⟩

/-! ## Going on to the end -/

/-- A thread goes on until its submission has ended. -/
theorem Task.ended_or_moves (k : Task) (s : State) : k = .ended ∨ ∃ k' s', Moves k s k' s' := by
  cases k with
  | submit job =>
    by_cases hraw : job.completion.kind = .raw
    · by_cases hgone : job.completion.ticket ∈ s.gone
      · exact .inr ⟨_, _, .handBack job s hraw hgone⟩
      · exact .inr ⟨_, _, .handOver job s hraw hgone⟩
    · by_cases h : s.Accepts
      · exact .inr ⟨_, _, .offer job s hraw h⟩
      · exact .inr ⟨_, _, .refuse job s hraw h⟩
  | count => exact .inr ⟨_, _, .count s⟩
  | refused job => exact .inr ⟨_, _, .countRefused job s⟩
  | decode job => exact .inr ⟨_, _, .decode job s⟩
  | tell d => exact .inr ⟨_, _, .tell d s⟩
  | discard p => exact .inr ⟨_, _, .discard p s⟩
  | ended => exact .inl rfl

/-- The workers have nothing left, and have left. -/
structure State.Drained (s : State) : Prop where
  queue_eq : s.dispatcher.queue = []
  running_eq : s.dispatcher.running = []
  telling_eq : s.telling = []
  exited_eq : s.exited = s.dispatcher.workers

/-- **After the drop the workers go on until all is drained.** -/
theorem Sound.drained_or_works (hs : Sound s) (hdropped : s.dropped = true) :
    s.Drained ∨ ∃ s', Works s s' := by
  rcases htelling : s.telling with _ | ⟨d, ds⟩
  case cons => exact .inr ⟨_, .tell s [] d ds htelling⟩
  rcases hrunning : s.dispatcher.running with _ | ⟨job, jobs⟩
  case cons =>
    have hfinish : s.dispatcher.finish (fun _ ↦ false) =
        some (job, { s.dispatcher with running := jobs }) := by
      rw [finish, hrunning]
      rfl
    exact .inr ⟨_, .decode s _ hfinish⟩
  have hidle (h : s.exited < s.dispatcher.workers) : s.Idle := by
    simpa [State.Idle, hrunning, htelling] using h
  rcases hqueue : s.dispatcher.queue with _ | ⟨job, jobs⟩
  case cons =>
    have hne : s.dispatcher.queue ≠ [] := hqueue ▸ List.cons_ne_nil _ _
    have hpos := hs.workers_pos hne
    have hexited : s.exited = 0 :=
      Nat.eq_zero_of_not_pos fun h ↦ hne (hs.exited_pos h).2
    have htake : s.dispatcher.take = some { s.dispatcher with
        queue := jobs, running := s.dispatcher.running ++ [job] } := by
      rw [take, hqueue]
      exact if_pos (by rwa [hrunning])
    exact .inr ⟨_, .take s htake (hidle (by rwa [hexited]))⟩
  have hle := hs.busy_le
  rcases Nat.lt_or_ge s.exited s.dispatcher.workers with h | h
  · exact .inr ⟨_, .exit s hdropped hqueue (hidle h)⟩
  · exact .inl ⟨hqueue, hrunning, htelling, Nat.le_antisymm (by omega) h⟩

theorem Moves.cost_lt (h : Moves k s k' s') : s'.cost + k'.cost < s.cost + k.cost := by
  cases h with
  | offer =>
    simp only [State.cost, Task.cost, List.length_append, List.length_singleton]
    omega
  | handOver | handBack | discard | refuse | count | countRefused | decode | tell =>
    simp only [State.cost, State.release, Task.cost]
    omega

theorem Works.cost_lt (h : Works s s') : s'.cost < s.cost := by
  cases h with
  | take h =>
    obtain ⟨job, jobs, hqueue, rfl⟩ := take_cases h
    simp only [State.cost, hqueue, List.length_append, List.length_cons, List.length_nil]
    omega
  | decode _ h =>
    obtain ⟨before, after, hrunning, rfl⟩ := finish_cases h
    simp only [State.cost, State.release, hrunning, List.length_append, List.length_cons,
      List.length_nil]
    omega
  | tell before d after h =>
    simp only [State.cost, h, List.length_append, List.length_cons]
    omega
  | exit _ _ hidle =>
    rw [State.Idle] at hidle
    simp only [State.cost]
    omega

/-! ## A submission that nobody interrupts -/

/-- The moves of a thread while nobody else moves. -/
inductive Runs : Task → State → Task → State → Prop where
  | refl (k : Task) (s : State) : Runs k s k s
  | move {k k' k'' : Task} {s s' s'' : State} (h : Moves k s k' s') (hs : Runs k' s' k'' s'') :
      Runs k s k'' s''

/-- **A thread that goes through a submission alone** does to the dispatcher what `submit` does, and
ends the use of the body if the response was decoded. -/
theorem runs_submit (job : DecodeJob) (s : State) (hexited : s.exited = 0)
    (hwaits : job.completion.ticket ∉ s.gone) :
    ∃ s', Runs (.submit job) s .ended s' ∧
      s'.dispatcher = (s.dispatcher.submit job.completion job.frame).2 ∧
      s'.told = s.told ++ (s.dispatcher.submit job.completion job.frame).1.toList ∧
      s'.arena = if job.completion.kind = .raw ∨
          (s.dispatcher.submit job.completion job.frame).1.isNone then s.arena
        else s.arena.release job.frame.body := by
  by_cases hraw : job.completion.kind = .raw
  · refine ⟨_, .move (.handOver job s hraw hwaits) (.refl _ _), ?_, ?_,
      (if_pos (.inl hraw)).symm⟩
    · rw [submit, hraw]
    · rw [submit, hraw]
      rfl
  · have hsubmit : s.dispatcher.submit job.completion job.frame =
        if s.Accepts then (none, { s.dispatcher with
          queue := s.dispatcher.queue ++ [job], offloaded := s.dispatcher.offloaded + 1 })
        else (some (s.dispatcher.decode job),
          { s.dispatcher with inlined := s.dispatcher.inlined + 1 }) := by
      have haccepts : s.Accepts ↔ s.dispatcher.workers ≠ 0 ∧
          s.dispatcher.queue.length < s.dispatcher.capacity := by
        rw [State.Accepts, hexited, Nat.pos_iff_ne_zero]
      rw [submit, if_congr haccepts rfl rfl]
      split
      · next h => exact absurd h hraw
      · rfl
    by_cases h : s.Accepts
    · have hruns := Runs.move (.offer job s hraw h) (.move (.count _) (.refl _ _))
      rw [hsubmit, if_pos h]
      exact ⟨_, hruns, rfl, (List.append_nil _).symm, (if_pos (.inr rfl)).symm⟩
    · have hruns := Runs.move (.refuse job s hraw h) (.move (.countRefused job _)
        (.move (.decode job _) (.move (.tell _ _) (.refl _ _))))
      rw [hsubmit, if_neg h]
      exact ⟨_, hruns, rfl, rfl, (if_neg (by simp [hraw])).symm⟩

end Dispatcher

end RpcTransport
