import RpcTransport.Connection.Submission
import RpcTransport.Connection.Inbound
import RpcTransport.Connection.Writer

/-!
# What waits to be written

The frames in the queue, and behind them those whose senders are in line, are written in this order:
a sender that is in line has found the queue full, and gets the first place that comes free. So all
that a function of a connection can do to this backlog is to put frames behind it
(`Connection.Queues`), and the writer takes the first (`Connection.backlog_dequeue`).

A reply is told from all other frames by two flags, which the peer sees too.
-/

namespace RpcTransport

/-- A response that is no heartbeat. -/
def Frame.isReply (f : Frame) : Bool := !f.isRequest && !f.isEvent

namespace Connection

variable {c c' c'' : Connection}

/-! ## The backlog -/

def backlog (c : Connection) : List Outbound := c.queue ++ c.waiting

/-- The writer takes frames, and nobody is in line while there is room. -/
structure Lined (c : Connection) : Prop where
  queueOpen_eq : c.queueOpen = true
  full : c.waiting = [] ∨ c.capacity ≤ c.queue.length

/-- Some frames are put behind the backlog, and the connection is otherwise what it was. -/
structure Queues (c c' : Connection) (os : List Outbound) : Prop where
  backlog_eq : c'.backlog = c.backlog ++ os
  lined : c'.Lined
  registry_eq : c'.registry = c.registry
  config_eq : c'.config = c.config

theorem Queues.trans {os os' : List Outbound} (h : Queues c c' os) (h' : Queues c' c'' os') :
    Queues c c'' (os ++ os') where
  backlog_eq := by rw [h'.backlog_eq, h.backlog_eq, List.append_assoc]
  lined := h'.lined
  registry_eq := h'.registry_eq.trans h.registry_eq
  config_eq := h'.config_eq.trans h.config_eq

/-- All of a connection that replies and their way out depend on. -/
def outlet (c : Connection) : List Outbound × List Outbound × Bool × Registry × ConnectionConfig :=
  (c.queue, c.waiting, c.queueOpen, c.registry, c.config)

theorem queues_of_outlet (hc : c.Lined) (h : c'.outlet = c.outlet) : Queues c c' [] := by
  simp only [outlet, Prod.mk.injEq] at h
  obtain ⟨hqueue, hwaiting, hopen, hregistry, hconfig⟩ := h
  refine ⟨?_, ⟨hopen.trans hc.queueOpen_eq, ?_⟩, hregistry, hconfig⟩
  · rw [backlog, backlog, hqueue, hwaiting, List.append_nil]
  · rw [hwaiting, capacity, hqueue, hconfig]
    exact hc.full

theorem Queues.of_outlet {os : List Outbound} (h : Queues c c' os)
    (hsame : c''.outlet = c'.outlet) : Queues c c'' os :=
  List.append_nil os ▸ h.trans (queues_of_outlet h.lined hsame)

/-! ## Senders -/

theorem queues_place (hc : c.Lined) (h : c.queue.length < c.capacity) (o : Outbound) :
    Queues c { c with queue := c.queue ++ [o] } [o] := by
  have hwaiting : c.waiting = [] := hc.full.resolve_right (Nat.not_le.mpr h)
  refine ⟨?_, ⟨hc.queueOpen_eq, .inl hwaiting⟩, rfl, rfl⟩
  rw [backlog, backlog, hwaiting, List.append_nil, List.append_nil]

/-- A sender that waits has its frame put behind the others. -/
theorem queues_enqueue (hc : c.Lined) (o : Outbound) : Queues c (c.enqueue o).2 [o] := by
  rw [enqueue, if_neg (by simp [hc.queueOpen_eq])]
  split
  · next h => exact queues_place hc h o
  · next h =>
    exact ⟨(List.append_assoc _ _ _).symm, ⟨hc.queueOpen_eq, .inr (Nat.not_lt.mp h)⟩, rfl, rfl⟩

theorem queues_tryEnqueue_of_room (hc : c.Lined) (h : c.queue.length < c.capacity) (o : Outbound) :
    Queues c (c.tryEnqueue o).2 [o] := by
  rw [tryEnqueue, if_pos ⟨hc.queueOpen_eq, h⟩]
  exact queues_place hc h o

/-- A sender that does not wait has its frame put behind the others, if there is room. -/
theorem queues_tryEnqueue (hc : c.Lined) (o : Outbound) :
    ∃ os, os ⊆ [o] ∧ Queues c (c.tryEnqueue o).2 os := by
  by_cases h : c.queue.length < c.capacity
  · exact ⟨[o], List.Subset.refl _, queues_tryEnqueue_of_room hc h o⟩
  · rw [tryEnqueue, if_neg (fun hroom ↦ h hroom.2)]
    exact ⟨[], List.nil_subset _, queues_of_outlet hc rfl⟩

/-- The writer takes the first. -/
theorem backlog_dequeue (hc : c.Lined) {o : Outbound} (h : c.dequeue = some (o, c')) :
    c.backlog = o :: c'.backlog ∧ c'.Lined ∧ c'.registry = c.registry ∧ c'.config = c.config := by
  rw [dequeue] at h
  split at h
  · exact nomatch h
  · next first queue hqueue hwaiting =>
    obtain ⟨rfl, rfl⟩ := Prod.mk.inj (Option.some.inj h)
    refine ⟨?_, ⟨hc.queueOpen_eq, .inl hwaiting⟩, rfl, rfl⟩
    rw [backlog, backlog, hqueue, List.cons_append]
  · next first queue next waiting hqueue hwaiting =>
    obtain ⟨rfl, rfl⟩ := Prod.mk.inj (Option.some.inj h)
    have hfull := hc.full.resolve_left (by simp [hwaiting])
    refine ⟨?_, ⟨hc.queueOpen_eq, .inr ?_⟩, rfl, rfl⟩
    · rw [backlog, backlog, hqueue, hwaiting, List.cons_append, List.append_assoc]
      rfl
    · rw [hqueue] at hfull
      rw [List.length_append]
      exact hfull

theorem dequeue_eq_none (hc : c.Lined) (h : c.dequeue = none) : c.backlog = [] := by
  rw [dequeue] at h
  split at h
  · next hqueue =>
    have hwaiting : c.waiting = [] := by
      refine hc.full.resolve_right ?_
      rw [hqueue, capacity, List.length_nil]
      omega
    rw [backlog, hqueue, hwaiting, List.append_nil]
  · exact nomatch h
  · exact nomatch h

/-! ## Functions that queue something else -/

/-- Nothing but requests and heartbeats is put behind the backlog. -/
def Passive (c c' : Connection) : Prop :=
  ∃ os : List Outbound, (∀ o ∈ os, o.frame.isReply = false) ∧ Queues c c' os

theorem passive_of_outlet (hc : c.Lined) (h : c'.outlet = c.outlet) : Passive c c' :=
  ⟨[], List.forall_mem_nil _, queues_of_outlet hc h⟩

theorem Passive.of_outlet (h : Passive c c') (hsame : c''.outlet = c'.outlet) : Passive c c'' :=
  let ⟨os, hos, hqueues⟩ := h
  ⟨os, hos, hqueues.of_outlet hsame⟩

theorem passive_tryEnqueue (hc : c.Lined) {o : Outbound} (h : o.frame.isReply = false) :
    Passive c (c.tryEnqueue o).2 := by
  obtain ⟨os, hos, hqueues⟩ := queues_tryEnqueue hc o
  exact ⟨os, fun p hp ↦ List.mem_singleton.mp (hos hp) ▸ h, hqueues⟩

theorem passive_enqueue (hc : c.Lined) {o : Outbound} (h : o.frame.isReply = false) :
    Passive c (c.enqueue o).2 :=
  ⟨[o], List.forall_mem_singleton.mpr h, queues_enqueue hc o⟩

theorem Passive.trans_outlet (hc : c.Lined) (hsame : c'.outlet = c.outlet) (h : Passive c' c'') :
    Passive c c'' :=
  let ⟨os, hos, hqueues⟩ := h
  ⟨os, hos, (queues_of_outlet hc hsame).trans hqueues⟩

theorem Lined.of_outlet (hc : c.Lined) (hsame : c'.outlet = c.outlet) : c'.Lined :=
  (queues_of_outlet hc hsame).lined

theorem isReply_answer {registry : Registry} {f reply : Frame}
    (h : Heartbeat.answer registry f = .ok reply) : reply.isReply = false := by
  rw [Heartbeat.answer] at h
  cases hnull : registry.nullOctets f.serialization with
  | error e =>
    rw [hnull] at h
    exact nomatch h
  | ok null =>
    rw [hnull] at h
    obtain rfl := Except.ok.inj h
    rfl

theorem isReply_probe {registry : Registry} {id : UInt64} {serialization : UInt8} {probe : Frame}
    (h : Heartbeat.probe registry id serialization = .ok probe) : probe.isReply = false := by
  rw [Heartbeat.probe] at h
  cases hnull : registry.nullOctets serialization with
  | error e =>
    rw [hnull] at h
    exact nomatch h
  | ok null =>
    rw [hnull] at h
    obtain rfl := Except.ok.inj h
    rfl

theorem passive_onHeartbeat (hc : c.Lined) (f : Frame) : Passive c (c.onHeartbeat f) := by
  have hrelease : (c.release f.body).outlet = c.outlet := rfl
  rw [onHeartbeat]
  split
  · split
    · next reply hanswer =>
      exact (passive_tryEnqueue (hc.of_outlet hrelease) (isReply_answer hanswer)).trans_outlet hc
        hrelease
    · exact passive_of_outlet hc rfl
  · exact passive_of_outlet hc rfl

theorem outlet_dispatch (c : Connection) (completion : Completion) (f : Frame) :
    (c.dispatch completion f).outlet = c.outlet := by
  rw [dispatch]
  split
  dsimp only
  rw [apply_ite outlet]
  exact ite_self _

theorem passive_onResponse (hc : c.Lined) (f : Frame) : Passive c (c.onResponse f) := by
  refine passive_of_outlet hc ?_
  rw [onResponse]
  split
  · rfl
  · exact outlet_dispatch _ _ _

theorem outlet_failWrite (c : Connection) (id : UInt64) (reason : String) :
    (c.failWrite id reason).outlet = c.outlet := rfl

theorem outlet_shutdown (c : Connection) (reason : TransportError) :
    (c.shutdown reason).outlet = c.outlet := by
  rw [shutdown, markClosed]
  cases c.closed with
  | true => rfl
  | false => rfl

theorem outlet_acknowledge (c : Connection) (a : Acknowledgement) (failure : Option String) :
    (c.acknowledge a failure).outlet = c.outlet := by
  cases a with
  | none => rfl
  | probe =>
    cases failure with
    | none => rfl
    | some reason => exact c.outlet_shutdown _
  | request | notify =>
    cases failure with
    | none | some reason => rfl

theorem outlet_arm (c : Connection) (s : Submission) (token : Nat) :
    (c.arm s token).outlet = c.outlet := by
  rw [arm]
  split
  · rfl
  · rfl

/-! ## Functions that send -/

/-- A request is queued, or its write fails at once. -/
theorem send_cases (c : Connection) (s : Submission) :
    let queued := (c.enqueue ⟨.request s.id c.config.serialization (.detached s.body),
      .request s.id s.completion.ticket⟩).2
    c.send s = queued ∨ c.send s = queued.failWrite s.id "connection writer stopped" := by
  rw [send]
  split
  · next h => exact .inl (by rw [h])
  · next h => exact .inr (by rw [h])

theorem submit_cases (c : Connection) (kind : CompletionKind) (body : Bytes)
    (timeout : Option Nat) : (c.submit kind body timeout).2.outlet = c.outlet ∨
      ∃ c' s, c'.outlet = c.outlet ∧ (c.submit kind body timeout).2 = send c' s := by
  rw [submit]
  dsimp only
  split
  · exact .inl rfl
  · have hsame (token : Nat) : ((((c.begin kind body timeout).2.register
        (c.begin kind body timeout).1).schedule (c.begin kind body timeout).1).2.arm
          (c.begin kind body timeout).1 token).outlet = c.outlet := outlet_arm _ _ _
    exact .inr ⟨_, _, hsame _, rfl⟩

theorem sendAcknowledged_cases (c : Connection) (f : Frame) :
    (c.sendAcknowledged f).2 = c ∨ (c.sendAcknowledged f).2 =
      (enqueue { c with nextWaiter := c.nextWaiter + 1 } ⟨f, .notify c.nextWaiter⟩).2 := by
  rw [sendAcknowledged]
  split
  · exact .inl rfl
  · refine .inr ?_
    dsimp only
    split
    · next h => rw [h]
    · next h => rw [h]

theorem queueProbe_cases (c : Connection) : c.queueProbe.2 = c.takeId.2 ∨
    ∃ f, f.isReply = false ∧ c.queueProbe.2 = (c.takeId.2.tryEnqueue ⟨f, .probe⟩).2 := by
  rw [queueProbe]
  dsimp only
  split
  · exact .inl rfl
  · next f hprobe =>
    refine .inr ⟨f, isReply_probe hprobe, ?_⟩
    split
    · next h => rw [h]
    · next h => rw [h]

/-- A probe is queued, if one is due and there is room. -/
theorem onIdle_cases (c : Connection) : c.onIdle.2 = c ∨ c.onIdle.2 = c.takeId.2 ∨
    ∃ f, f.isReply = false ∧ c.onIdle.2 = (c.takeId.2.tryEnqueue ⟨f, .probe⟩).2 := by
  rw [onIdle]
  split
  · exact .inl rfl
  · exact .inr c.queueProbe_cases

theorem passive_send (hc : c.Lined) (s : Submission) : Passive c (c.send s) := by
  rcases c.send_cases s with hqueued | hfailed
  · rw [hqueued]
    exact passive_enqueue hc rfl
  · rw [hfailed]
    exact (passive_enqueue hc rfl).of_outlet (outlet_failWrite _ _ _)

theorem passive_submit (hc : c.Lined) (kind : CompletionKind) (body : Bytes)
    (timeout : Option Nat) : Passive c (c.submit kind body timeout).2 := by
  rcases c.submit_cases kind body timeout with hsame | ⟨c', s, hsame, hsent⟩
  · exact passive_of_outlet hc hsame
  · rw [hsent]
    exact (passive_send (hc.of_outlet hsame) s).trans_outlet hc hsame

theorem passive_sendAcknowledged (hc : c.Lined) {f : Frame} (h : f.isReply = false) :
    Passive c (c.sendAcknowledged f).2 := by
  rcases c.sendAcknowledged_cases f with hsame | hqueued
  · rw [hsame]
    exact passive_of_outlet hc rfl
  · have hwaiter : outlet { c with nextWaiter := c.nextWaiter + 1 } = c.outlet := rfl
    rw [hqueued]
    exact (passive_enqueue (hc.of_outlet hwaiter) h).trans_outlet hc hwaiter

theorem passive_onIdle (hc : c.Lined) : Passive c c.onIdle.2 := by
  have htake : c.takeId.2.outlet = c.outlet := rfl
  rcases c.onIdle_cases with hsame | htaken | ⟨f, hf, hqueued⟩
  · rw [hsame]
    exact passive_of_outlet hc rfl
  · rw [htaken]
    exact passive_of_outlet hc htake
  · rw [hqueued]
    exact (passive_tryEnqueue (hc.of_outlet htake) hf).trans_outlet hc htake

end Connection

end RpcTransport
